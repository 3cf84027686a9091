import TagSearch.Proofs.Predicate.TranslationTruth
import TagSearch.Proofs.Store.Index

/-!
# What the indexes find for a query

A leaf that holds the owner or the title against a pattern may be answered from an index.  The index
finds a row for the leaf if the row's text begins as the pattern does wherever it fits it
(`Filter.IsFoundIn`); only the replacement character and the two code points behind it can make a
difference, so that every row without them is found (`Row.IsPlain.isFoundIn`).

If the indexes find a row for every leaf of a tree, they find it for every pattern of the condition
that the tree is translated into (`Translation.isFoundByAll_ofQuery`).
-/

namespace TagSearch

/-- The index finds the row for the leaf, if the leaf asks for an index. -/
def Filter.IsFoundIn (f : Filter) (r : Row) : Prop :=
  f.negated = false → f.value.toText.toList.contains '*' = true →
    match f.field with
    | .owner => BeginsAs (starsToPercents f.value.toText) r.owner
    | .title => BeginsAs (starsToPercents f.value.toText) r.title
    | _ => True

theorem Row.IsPlain.isFoundIn {r : Row} (hr : r.IsPlain) (f : Filter) : f.IsFoundIn r := by
  intro _ _
  split
  · exact hr.isFoundBy .owner _
  · exact hr.isFoundBy .title _
  · trivial

namespace Condition

variable {r : Row}

theorem isFoundByAll_nil : IsFoundByAll r [] := by
  intro l hl
  cases hl

theorem likes_like_asText (negated : Bool) (s t : Scalar Value) :
    (like negated (.asText s) t).likes = [] := by
  cases negated <;> rfl

theorem likes_onNumber (f : Filter) (s : Scalar Value) : (f.onNumber s).likes = [] := by
  unfold Filter.onNumber
  split
  · exact likes_like_asText _ _ _
  · rfl

theorem likes_onDate (f : Filter) (c : Column) : (f.onDate c).likes = [] := by
  unfold Filter.onDate
  split
  · exact likes_like_asText _ _ _
  · rfl

theorem likes_onDuration (f : Filter) : f.onDuration.likes = [] := by
  unfold Filter.onDuration
  split
  · exact likes_like_asText _ _ _
  · rfl

/-- A text leaf asks for at most one pattern, and only if it has a `*` and is not negated. -/
theorem isFoundByAll_onText {f : Filter} {c : Column}
    (h : f.negated = false → f.value.toText.toList.contains '*' = true →
      r.IsFoundBy c (starsToPercents f.value.toText)) : IsFoundByAll r (f.onText c).likes := by
  unfold Filter.onText
  dsimp only
  split
  · next hstar =>
    cases hn : f.negated with
    | true => exact isFoundByAll_nil
    | false =>
      intro l hl
      obtain rfl := List.mem_singleton.1 hl
      exact h hn hstar
  · exact isFoundByAll_nil

theorem isFoundByAll_of_likes_eq_nil {c : Condition Value} (h : c.likes = []) :
    IsFoundByAll r c.likes := by
  rw [h]
  exact isFoundByAll_nil

theorem isFoundByAll_ofFilter {f : Filter} (h : f.IsFoundIn r) :
    IsFoundByAll r (ofFilter f).likes := by
  have hnumber (s : Scalar Value) : IsFoundByAll r (f.onNumber s).likes :=
    isFoundByAll_of_likes_eq_nil (likes_onNumber f s)
  have hdate (c : Column) : IsFoundByAll r (f.onDate c).likes :=
    isFoundByAll_of_likes_eq_nil (likes_onDate f c)
  unfold Filter.IsFoundIn at h
  unfold ofFilter
  cases hf : f.field with
  | tag =>
    cases hn : f.negated with
    | true => exact isFoundByAll_nil
    | false =>
      intro l hl
      obtain rfl := List.mem_singleton.1 hl
      trivial
  | owner =>
    rw [hf] at h
    exact isFoundByAll_onText h
  | title =>
    rw [hf] at h
    exact isFoundByAll_onText h
  | rating | fileType => exact isFoundByAll_onText fun _ _ => trivial
  | createdAt | downloadedAt => exact hdate _
  | duration => exact isFoundByAll_of_likes_eq_nil (likes_onDuration f)
  | postId | score | width | height | fileSize | tagCount | aspectRatio => exact hnumber _
  | matchingTags | unknown => exact isFoundByAll_nil

theorem likesOf_map_group (cs : List (Condition Value)) : likesOf (cs.map .group) = likesOf cs := by
  induction cs with
  | nil => rfl
  | cons c cs ih => rw [List.map_cons, likesOf, ih, likes, likesOf]

theorem isFoundByAll_joined {join : List (Condition Value) → Condition Value}
    (hjoin : ∀ cs, (join cs).likes = likesOf cs) {cs : List (Condition Value)}
    (h : IsFoundByAll r (likesOf cs)) : IsFoundByAll r (joined join cs).likes := by
  cases cs with
  | nil => exact isFoundByAll_nil
  | cons c cs =>
    show IsFoundByAll r (join ((c :: cs).map .group)).likes
    rw [hjoin, likesOf_map_group]
    exact h

mutual

/-- What the indexes find for the leaves of a tree they find for its condition. -/
theorem isFoundByAll_ofTree : (t : Tree Filter) → (∀ f ∈ t.leaves, f.IsFoundIn r) →
    IsFoundByAll r (ofTree t).likes
  | .leaf f, h => by
    rw [ofTree]
    exact isFoundByAll_ofFilter (h f (List.mem_singleton_self f))
  | .and parts, h => by
    rw [ofTree]
    exact isFoundByAll_joined (fun _ => rfl) (isFoundByAll_ofTrees parts h)
  | .or parts, h => by
    rw [ofTree]
    exact isFoundByAll_joined (fun _ => rfl) (isFoundByAll_ofTrees parts h)

theorem isFoundByAll_ofTrees : (ts : List (Tree Filter)) →
    (∀ f ∈ Tree.leavesOf ts, f.IsFoundIn r) → IsFoundByAll r (likesOf (ofTrees ts))
  | [], _ => isFoundByAll_nil
  | t :: ts, h => by
    rw [Tree.leavesOf, List.forall_mem_append] at h
    rw [ofTrees, likesOf, isFoundByAll_append]
    exact ⟨isFoundByAll_ofTree t h.1, isFoundByAll_ofTrees ts h.2⟩

end

theorem likes_withStatus (c : Condition Value) (status : String) :
    (c.withStatus status).likes = c.likes := by
  show c.likes ++ [] = c.likes
  exact List.append_nil _

end Condition

namespace Translation

theorem likes_restrict (c : Condition Value) (status : Option String) :
    (restrict c status).likes = c.likes := by
  unfold restrict
  split
  · exact Condition.likes_withStatus c _
  · rfl

theorem likes_ofStatus (status : Option String) : (ofStatus status).condition.likes = [] := by
  unfold ofStatus
  split <;> rfl

/-- What the indexes find for the leaves of a query they find for its translation. -/
theorem isFoundByAll_ofQuery {query : String} {status : Option String} {r : Row}
    (h : ∀ f ∈ (ofQuery query status).tree.leaves, f.IsFoundIn r) :
    Condition.IsFoundByAll r (ofQuery query status).condition.likes := by
  obtain ⟨hc, -⟩ | hc := ofQuery_condition query status
  · rw [hc]
    exact Condition.isFoundByAll_of_likes_eq_nil (likes_ofStatus status)
  · rw [hc, likes_restrict]
    exact Condition.isFoundByAll_ofTree _ h

end Translation

end TagSearch
