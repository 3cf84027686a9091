import TagSearch.Proofs.Json.TextArray
import TagSearch.Store.Basic

/-!
# Archives that posts were put into

A reachable archive has become what it is by putting and removing posts and by changing their
status.  What holds of every row that a post is put in as, and is left alone by a change of status, holds
of all its rows (`Reachable.forall_rows`).

Each of its rows can be read as a post (`Row.Decodes.exists_toPost`): its status is the name of one, and
its tags are a tag list (`Reachable.decodes`).
-/

namespace TagSearch

/-- The row has the name of a status and the text of a tag list. -/
structure Row.Decodes (r : Row) : Prop where
  status : ∃ status : Status, r.status = status.name
  tags : ∃ tags, decodeTags? r.tags = some tags

/-- A row that decodes can be read as a post, which has the row's status and tags. -/
theorem Row.Decodes.exists_toPost {r : Row} (h : r.Decodes) :
    ∃ p, r.toPost = .ok p ∧ r.status = p.status.name ∧ decodeTags? r.tags = some p.tags := by
  obtain ⟨⟨status, hstatus⟩, tags, htags⟩ := h
  unfold Row.toPost
  rw [hstatus, Status.ofName?_name, htags]
  exact ⟨_, rfl, rfl, rfl⟩

theorem Row.decodes_ofPost (p : Post) : (Row.ofPost p).stored.Decodes where
  status := ⟨p.status, rfl⟩
  tags := ⟨p.tags, decodeTags?_encodeTags p.tags⟩

namespace Store

/-- The archives that putting and removing posts and changing their status lead to. -/
inductive Reachable : Store → Prop where
  | empty : Reachable .empty
  | put {s : Store} (h : Reachable s) (p : Post) : Reachable (s.put p)
  | remove {s : Store} (h : Reachable s) (postId : Int) : Reachable (s.remove postId).toStore
  | setStatus {s : Store} (h : Reachable s) (postId : Int) (status : Status)
      (folder : Option String) : Reachable (s.setStatus postId status folder).toStore

/-- All rows of the archive decode. -/
def Decodes (s : Store) : Prop := ∀ r ∈ s.rows, r.Decodes

/-- What holds of the row of every post and does not depend on status and folder holds of every row of
a reachable archive. -/
theorem Reachable.forall_rows {P : Row → Prop} (hpost : ∀ p, P (Row.ofPost p).stored)
    (hstatus : ∀ r (status : Status) folder, P r →
      P { r with status := status.name, dateFolder := folder })
    {s : Store} (hs : Reachable s) : ∀ r ∈ s.rows, P r := by
  induction hs with
  | empty =>
    intro r hr
    cases hr
  | put _ p ih =>
    intro r hr
    unfold Store.put putRow at hr
    rw [List.mem_append, List.mem_filter, List.mem_singleton] at hr
    obtain ⟨hr, -⟩ | rfl := hr
    · exact ih r hr
    · exact hpost p
  | remove _ postId ih =>
    intro r hr
    exact ih r (List.mem_filter.1 hr).1
  | setStatus _ postId status folder ih =>
    intro r hr
    obtain ⟨q, hq, rfl⟩ := List.mem_map.1 hr
    split
    · exact hstatus q status _ (ih q hq)
    · exact ih q hq

/-- Every row of a reachable archive decodes. -/
theorem Reachable.decodes {s : Store} (h : Reachable s) : s.Decodes :=
  h.forall_rows Row.decodes_ofPost fun _ status _ hr => ⟨⟨status, rfl⟩, hr.tags⟩

end Store

end TagSearch
