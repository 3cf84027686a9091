import Mathlib.Data.Finmap
import TagSearch.Proofs.Store.ReadBack

/-!
# The archive is a finite map

A catalog is the finite map from numbers to posts that an archive stands for: putting a post replaces
the entry of its number, removing a post erases its entry, and a change of status changes the status of
an entry that is there, and its folder if one with a name is given.  The last two are answered with
whether there was an entry.

An archive mirrors a catalog if no number has two rows and the rows are those that are kept of the entries
(`Store.Mirrors`).  Every action keeps that (`Store.Mirrors.act`) and is answered alike
(`Store.Mirrors.answer_eq`), so every run gives the same answers, and behind it the rows are read back as
the entries and counted as they are (`Store.run_refines_catalog`).
-/

namespace TagSearch

/-- The posts of an archive, each under its number. -/
abbrev Catalog := Finmap fun _ : Int => Post

/-- What is done to an archive. -/
inductive Action where
  | put (p : Post)
  | remove (postId : Int)
  | setStatus (postId : Int) (status : Status) (folder : Option String)

/-- The post in a status, and in a folder if one with a name is given. -/
def Post.moved (p : Post) (status : Status) (folder : Option String) : Post :=
  match folder with
  | none => { p with status := status }
  | some name =>
    if name = "" then { p with status := status }
    else { p with status := status, dateFolder := name }

namespace Catalog

def put (m : Catalog) (p : Post) : Catalog := m.insert p.postId p

def remove (m : Catalog) (postId : Int) : Catalog := m.erase postId

def setStatus (m : Catalog) (postId : Int) (status : Status) (folder : Option String) : Catalog :=
  match m.lookup postId with
  | some p => m.insert postId (p.moved status folder)
  | none => m

def act (m : Catalog) : Action → Catalog
  | .put p => m.put p
  | .remove postId => m.remove postId
  | .setStatus postId status folder => m.setStatus postId status folder

/-- Whether there was an entry to do something to; putting a post is not answered. -/
def answer (m : Catalog) : Action → Option Bool
  | .put _ => none
  | .remove postId | .setStatus postId _ _ => some (m.lookup postId).isSome

/-- The catalog after some actions. -/
def run (m : Catalog) (actions : List Action) : Catalog := actions.foldl act m

/-- The answers to some actions, one after the other. -/
def answers (m : Catalog) : List Action → List (Option Bool)
  | [] => []
  | action :: actions => m.answer action :: (m.act action).answers actions

/-- The numbers of the entries with a status. -/
def withStatus (m : Catalog) (status : Status) : Finset Int :=
  m.keys.filter fun postId => (m.lookup postId).map Post.status = some status

variable (m : Catalog)

theorem lookup_put (p : Post) (postId : Int) :
    (m.put p).lookup postId = if postId = p.postId then some p else m.lookup postId := by
  unfold put
  split
  · next h => rw [h, Finmap.lookup_insert]
  · next h => rw [Finmap.lookup_insert_of_ne m h]

theorem lookup_remove (removed postId : Int) :
    (m.remove removed).lookup postId = if postId = removed then none else m.lookup postId := by
  unfold remove
  split
  · next h => rw [h, Finmap.lookup_erase]
  · next h => rw [Finmap.lookup_erase_ne h]

theorem lookup_setStatus (changed : Int) (status : Status) (folder : Option String) (postId : Int) :
    (m.setStatus changed status folder).lookup postId =
      if postId = changed then (m.lookup postId).map (·.moved status folder)
      else m.lookup postId := by
  unfold setStatus
  by_cases h : postId = changed
  · subst h
    rw [if_pos rfl]
    cases hlookup : m.lookup postId with
    | none => exact hlookup
    | some p => exact Finmap.lookup_insert m
  · rw [if_neg h]
    cases m.lookup changed with
    | none => rfl
    | some p => exact Finmap.lookup_insert_of_ne m h

theorem card_withStatus :
    m.keys.card = (m.withStatus .pending).card + (m.withStatus .saved).card := by
  have hsaved : m.withStatus .saved =
      m.keys.filter fun postId => ¬(m.lookup postId).map Post.status = some .pending := by
    refine Finset.filter_congr fun postId hid => ?_
    obtain ⟨p, hp⟩ := Finmap.mem_iff.1 (Finmap.mem_keys.1 hid)
    rw [hp, Option.map_some, Option.some.injEq, Option.some.injEq]
    cases p.status <;> simp
  rw [hsaved]
  exact (Finset.card_filter_add_card_filter_not _).symm

end Catalog

/-! ## Posts and their rows -/

section

variable {p : Post} {status : Status} {folder : Option String}

@[simp] theorem Post.postId_moved : (p.moved status folder).postId = p.postId := by
  unfold moved
  split
  · rfl
  · split <;> rfl

theorem Post.HasNumbers.moved (h : p.HasNumbers) : (p.moved status folder).HasNumbers := by
  unfold Post.moved
  split
  · exact ⟨h.timestamp, h.duration⟩
  · split <;> exact ⟨h.timestamp, h.duration⟩

theorem Row.ofPost_moved : { Row.ofPost p.kept with
    status := status.name
    dateFolder := (folder.filter (· ≠ "")).getD (Row.ofPost p.kept).dateFolder } =
      Row.ofPost (p.moved status folder).kept := by
  cases folder with
  | none => rfl
  | some name =>
    unfold Post.moved
    by_cases h : name = "" <;> simp [h, Option.filter_some, Row.ofPost, Post.kept]

end

theorem Status.name_inj {a b : Status} : a.name = b.name ↔ a = b := by
  constructor
  · intro h
    have := congrArg ofName? h
    rwa [ofName?_name, ofName?_name, Option.some.injEq] at this
  · exact congrArg name

namespace Store

def act (s : Store) : Action → Store
  | .put p => s.put p
  | .remove postId => (s.remove postId).toStore
  | .setStatus postId status folder => (s.setStatus postId status folder).toStore

/-- What an action is answered with. -/
def answer (s : Store) : Action → Option Bool
  | .put _ => none
  | .remove postId => some (s.remove postId).found
  | .setStatus postId status folder => some (s.setStatus postId status folder).found

/-- The archive after some actions. -/
def run (s : Store) (actions : List Action) : Store := actions.foldl act s

/-- The answers to some actions, one after the other. -/
def answers (s : Store) : List Action → List (Option Bool)
  | [] => []
  | action :: actions => s.answer action :: (s.act action).answers actions

/-- The numbers of the rows. -/
def postIds (s : Store) : List Int := s.rows.map Row.postId

/-- The rows of the archive are those of the entries of the catalog. -/
structure Mirrors (s : Store) (m : Catalog) : Prop where
  /-- No number has two rows. -/
  nodup : s.postIds.Nodup
  /-- Every entry stands under its own number. -/
  keyed : ∀ postId p, m.lookup postId = some p → p.postId = postId
  /-- The rows are those that are kept of the entries. -/
  mem_rows : ∀ r, r ∈ s.rows ↔ ∃ p, m.lookup r.postId = some p ∧ r = Row.ofPost p.kept

variable {s : Store} {m : Catalog}

/-! ## One action -/

theorem mirrors_empty : empty.Mirrors ∅ where
  nodup := List.nodup_nil
  keyed := by
    intro postId p h
    rw [Finmap.lookup_empty] at h
    cases h
  mem_rows r := by
    rw [Finmap.lookup_empty]
    simp [empty]

theorem Mirrors.put (h : s.Mirrors m) (p : Post) : (s.put p).Mirrors (m.put p) where
  nodup := by
    have hothers : (s.rows.filter (·.postId ≠ p.postId)).map Row.postId |>.Nodup :=
      h.nodup.sublist (List.filter_sublist.map _)
    have hpostIds : (s.put p).postIds =
        (s.rows.filter (·.postId ≠ p.postId)).map Row.postId ++ [p.postId] := by
      unfold postIds Store.put putRow
      rw [List.map_append]
      rfl
    rw [hpostIds, List.nodup_append]
    refine ⟨hothers, List.nodup_singleton _, ?_⟩
    rintro _ hleft _ hright rfl
    obtain ⟨r, hr, hid⟩ := List.mem_map.1 hleft
    have hne := (List.mem_filter.1 hr).2
    rw [List.mem_singleton] at hright
    simp [hid, hright] at hne
  keyed := by
    intro postId q hq
    rw [Catalog.lookup_put] at hq
    split at hq
    · next hid => rw [hid, ← Option.some.inj hq]
    · exact h.keyed postId q hq
  mem_rows r := by
    have hmem : r ∈ (s.put p).rows ↔
        (r ∈ s.rows ∧ r.postId ≠ p.postId) ∨ r = Row.ofPost p.kept := by
      unfold Store.put putRow
      rw [List.mem_append, List.mem_filter, List.mem_singleton, Row.stored_ofPost, decide_eq_true_iff]
      rfl
    rw [hmem, Catalog.lookup_put]
    split
    · next hid => simp [hid]
    · next hid =>
      have hne : r ≠ Row.ofPost p.kept := by
        rintro rfl
        exact hid rfl
      simp [hid, hne, h.mem_rows r]

theorem Mirrors.remove (h : s.Mirrors m) (removed : Int) :
    (s.remove removed).toStore.Mirrors (m.remove removed) where
  nodup := h.nodup.sublist (List.filter_sublist.map _)
  keyed := by
    intro postId q hq
    rw [Catalog.lookup_remove] at hq
    split at hq
    · cases hq
    · exact h.keyed postId q hq
  mem_rows r := by
    have hmem : r ∈ (s.remove removed).rows ↔ r ∈ s.rows ∧ r.postId ≠ removed := by
      simp [Store.remove]
    rw [hmem, Catalog.lookup_remove]
    split
    · next hid => simp [hid]
    · next hid => simp [hid, h.mem_rows r]

theorem Mirrors.setStatus (h : s.Mirrors m) (changed : Int) (status : Status)
    (folder : Option String) :
    (s.setStatus changed status folder).toStore.Mirrors (m.setStatus changed status folder) where
  nodup := by
    have hpostIds : (s.setStatus changed status folder).toStore.postIds = s.postIds := by
      unfold postIds Store.setStatus
      rw [List.map_map]
      refine List.map_congr_left fun r _ => ?_
      simp only [Function.comp]
      split <;> rfl
    rw [hpostIds]
    exact h.nodup
  keyed := by
    intro postId q hq
    rw [Catalog.lookup_setStatus] at hq
    split at hq
    · obtain ⟨p, hp, rfl⟩ := Option.map_eq_some_iff.1 hq
      rw [Post.postId_moved]
      exact h.keyed postId p hp
    · exact h.keyed postId q hq
  mem_rows r := by
    rw [Catalog.lookup_setStatus]
    unfold Store.setStatus
    rw [List.mem_map]
    constructor
    · rintro ⟨q, hq, rfl⟩
      obtain ⟨p, hp, rfl⟩ := (h.mem_rows q).1 hq
      split
      · next hid => exact ⟨p.moved status folder, by rw [if_pos hid, hp, Option.map_some], Row.ofPost_moved⟩
      · next hid => exact ⟨p, by rw [if_neg hid, hp], rfl⟩
    · rintro ⟨q, hq, hr⟩
      split at hq
      · next hid =>
        obtain ⟨p, hp, rfl⟩ := Option.map_eq_some_iff.1 hq
        have hpost : p.postId = r.postId := h.keyed _ p hp
        refine ⟨Row.ofPost p.kept, (h.mem_rows _).2 ⟨p, ?_, rfl⟩, ?_⟩
        · rw [← hp, ← hpost]
          rfl
        · have hchanged : (Row.ofPost p.kept).postId = changed := hpost.trans hid
          rw [if_pos hchanged, hr]
          exact Row.ofPost_moved
      · next hid => exact ⟨r, (h.mem_rows r).2 ⟨q, hq, hr⟩, if_neg hid⟩

/-! ## Answers and counts -/

theorem Mirrors.mem_of_lookup (h : s.Mirrors m) {postId : Int} {p : Post}
    (hp : m.lookup postId = some p) : Row.ofPost p.kept ∈ s.rows := by
  obtain rfl := h.keyed postId p hp
  exact (h.mem_rows _).2 ⟨p, hp, rfl⟩

theorem Mirrors.mem_postIds (h : s.Mirrors m) (postId : Int) : postId ∈ s.postIds ↔ postId ∈ m := by
  rw [Finmap.mem_iff]
  unfold postIds
  rw [List.mem_map]
  constructor
  · rintro ⟨r, hr, rfl⟩
    obtain ⟨p, hp, -⟩ := (h.mem_rows r).1 hr
    exact ⟨p, hp⟩
  · rintro ⟨p, hp⟩
    exact ⟨Row.ofPost p.kept, h.mem_of_lookup hp, h.keyed postId p hp⟩

theorem Mirrors.affected_pos (h : s.Mirrors m) (postId : Int) :
    decide (0 < s.affected postId) = (m.lookup postId).isSome := by
  rw [Bool.eq_iff_iff, decide_eq_true_iff, Finmap.lookup_isSome, ← h.mem_postIds]
  simp [affected, postIds, List.countP_pos_iff]

/-- An action is answered as by the catalog. -/
theorem Mirrors.answer_eq (h : s.Mirrors m) (action : Action) : s.answer action = m.answer action := by
  cases action with
  | put p => rfl
  | remove postId => exact congrArg some (h.affected_pos postId)
  | setStatus postId status folder => exact congrArg some (h.affected_pos postId)

theorem Mirrors.count_none (h : s.Mirrors m) : s.count none = m.keys.card := by
  have hkeys : s.postIds.toFinset = m.keys := by
    ext postId
    rw [List.mem_toFinset, h.mem_postIds, Finmap.mem_keys]
  rw [← hkeys, List.toFinset_card_of_nodup h.nodup]
  simp [count, withStatus, postIds]

theorem Mirrors.count_some (h : s.Mirrors m) (status : Status) :
    s.count (some status) = (m.withStatus status).card := by
  have hnodup : ((s.withStatus (some status)).map Row.postId).Nodup :=
    h.nodup.sublist (List.filter_sublist.map _)
  have hkeys : ((s.withStatus (some status)).map Row.postId).toFinset = m.withStatus status := by
    ext postId
    have hmem : postId ∈ m.withStatus status ↔ ∃ p, m.lookup postId = some p ∧ p.status = status := by
      unfold Catalog.withStatus
      rw [Finset.mem_filter, Finmap.mem_keys, Finmap.mem_iff, Option.map_eq_some_iff]
      exact ⟨fun hp => hp.2, fun ⟨p, hp, hs⟩ => ⟨⟨p, hp⟩, p, hp, hs⟩⟩
    rw [List.mem_toFinset, List.mem_map, hmem]
    constructor
    · rintro ⟨r, hr, rfl⟩
      obtain ⟨hr, hstatus⟩ := List.mem_filter.1 hr
      obtain ⟨p, hp, rfl⟩ := (h.mem_rows r).1 hr
      exact ⟨p, hp, Status.name_inj.1 (of_decide_eq_true hstatus)⟩
    · rintro ⟨p, hp, rfl⟩
      exact ⟨Row.ofPost p.kept, List.mem_filter.2 ⟨h.mem_of_lookup hp, decide_eq_true rfl⟩,
        h.keyed postId p hp⟩
  rw [← hkeys, List.toFinset_card_of_nodup hnodup, List.length_map]
  rfl

theorem Mirrors.isEmpty_iff (h : s.Mirrors m) : s.isEmpty = true ↔ m = ∅ := by
  unfold isEmpty
  rw [beq_iff_eq, h.count_none, Finset.card_eq_zero]
  constructor
  · intro hkeys
    refine Finmap.ext_lookup fun postId => ?_
    rw [Finmap.lookup_empty, Finmap.lookup_eq_none, ← Finmap.mem_keys, hkeys]
    exact Finset.notMem_empty postId
  · rintro rfl
    exact Finmap.keys_empty

end Store

/-! ## Runs -/

namespace Store

variable {s : Store} {m : Catalog}

theorem Mirrors.act (h : s.Mirrors m) (action : Action) : (s.act action).Mirrors (m.act action) := by
  cases action with
  | put p => exact h.put p
  | remove postId => exact h.remove postId
  | setStatus postId status folder => exact h.setStatus postId status folder

theorem Mirrors.run (h : s.Mirrors m) (actions : List Action) :
    (s.run actions).Mirrors (m.run actions) := by
  induction actions generalizing s m with
  | nil => exact h
  | cons action actions ih => exact ih (h.act action)

/-- Every action of a run is answered as by the catalog. -/
theorem Mirrors.answers_eq (h : s.Mirrors m) (actions : List Action) :
    s.answers actions = m.answers actions := by
  induction actions generalizing s m with
  | nil => rfl
  | cons action actions ih => rw [answers, Catalog.answers, h.answer_eq, ih (h.act action)]

end Store

theorem Catalog.hasNumbers_run {actions : List Action}
    (hactions : ∀ p, .put p ∈ actions → p.HasNumbers) {m : Catalog}
    (hm : ∀ postId p, m.lookup postId = some p → p.HasNumbers) :
    ∀ postId p, (m.run actions).lookup postId = some p → p.HasNumbers := by
  induction actions generalizing m with
  | nil => exact hm
  | cons action actions ih =>
    refine ih (fun p hp => hactions p (List.mem_cons_of_mem _ hp)) ?_
    intro postId q hq
    cases action with
    | put p =>
      rw [act, lookup_put] at hq
      split at hq
      · obtain rfl := Option.some.inj hq
        exact hactions p List.mem_cons_self
      · exact hm postId q hq
    | remove removed =>
      rw [act, lookup_remove] at hq
      split at hq
      · cases hq
      · exact hm postId q hq
    | setStatus changed status folder =>
      rw [act, lookup_setStatus] at hq
      split at hq
      · obtain ⟨p, hp, rfl⟩ := Option.map_eq_some_iff.1 hq
        exact (hm postId p hp).moved
      · exact hm postId q hq

/-- The archive is the finite map: its rows are the entries, and it counts by them. -/
structure Store.Refines (s : Store) (m : Catalog) : Prop where
  /-- No number has two rows. -/
  nodup : s.postIds.Nodup
  /-- Every row is read as the entry of its number. -/
  reads : ∀ r ∈ s.rows, ∃ p q, m.lookup r.postId = some p ∧ r.toPost = .ok q ∧ q.Equals p
  /-- Every entry has a row. -/
  has : ∀ postId ∈ m, ∃ r ∈ s.rows, r.postId = postId
  count : s.count none = m.keys.card
  countOf : ∀ status, s.count (some status) = (m.withStatus status).card
  counts : s.count none = s.count (some .pending) + s.count (some .saved)
  isEmpty : s.isEmpty = true ↔ m = ∅

/-- An archive that mirrors a catalog whose posts have numbers in their real columns is that finite map. -/
theorem Store.Mirrors.refines {s : Store} {m : Catalog} (h : s.Mirrors m)
    (hnumbers : ∀ postId p, m.lookup postId = some p → p.HasNumbers) : s.Refines m where
  nodup := h.nodup
  reads := by
    intro r hr
    obtain ⟨p, hp, hrow⟩ := (h.mem_rows r).1 hr
    exact ⟨p, p.kept, hp, by rw [hrow, Row.toPost_ofPost], (hnumbers _ p hp).equals_kept⟩
  has := by
    intro postId hid
    rw [← h.mem_postIds] at hid
    exact List.mem_map.1 hid
  count := h.count_none
  countOf := h.count_some
  counts := by rw [h.count_none, h.count_some, h.count_some, Catalog.card_withStatus]
  isEmpty := h.isEmpty_iff

/-- Every run of actions that puts only posts with numbers in their real columns is answered as by the
finite map, and behind it the archive is the finite map that the actions lead to. -/
theorem Store.run_refines_catalog {actions : List Action}
    (h : ∀ p, .put p ∈ actions → p.HasNumbers) :
    Store.empty.answers actions = Catalog.answers ∅ actions ∧
      (Store.empty.run actions).Refines (Catalog.run ∅ actions) := by
  have hnumbers : ∀ postId p, (Catalog.run ∅ actions).lookup postId = some p → p.HasNumbers := by
    refine Catalog.hasNumbers_run h fun postId p hp => ?_
    rw [Finmap.lookup_empty] at hp
    cases hp
  exact ⟨mirrors_empty.answers_eq actions, (mirrors_empty.run actions).refines hnumbers⟩

/-- A post is put twice, saved into a folder, and another one removed and put back; two changes are for
numbers without a post. -/
theorem Store.run_refines_catalog_two_posts :
    ∃ actions : List Action, actions = [
        .put (.ofTags 1 ["a"]), .put (.ofTags 2 []), .remove 2, .setStatus 2 .saved none,
        .put { Post.ofTags 1 ["b"] with timestamp := .finite true 0 }, .setStatus 1 .saved (some "2024"),
        .setStatus 1 .saved (some ""), .remove 3, .put (.ofTags 2 ["c"])] ∧
      (∀ p, .put p ∈ actions → p.HasNumbers) ∧
      Store.empty.answers actions = [none, none, some true, some false, none, some true, some true,
        some false, none] ∧
      Store.empty.answers actions = Catalog.answers ∅ actions ∧
      (Store.empty.run actions).Refines (Catalog.run ∅ actions) := by
  refine ⟨_, rfl, ?h, by decide +kernel, run_refines_catalog ?h⟩
  intro p hp
  simp only [List.mem_cons, Action.put.injEq, reduceCtorEq, List.not_mem_nil, or_false, false_or] at hp
  rcases hp with rfl | rfl | rfl | rfl <;> exact ⟨by decide, by decide⟩

end TagSearch
