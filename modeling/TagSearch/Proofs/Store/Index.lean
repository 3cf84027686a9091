import TagSearch.Proofs.Predicate.Like
import TagSearch.Store.Path

/-!
# What the indexes find

The index of a column finds a row for a pattern if the row's text begins as the pattern does wherever it
fits it.  A pattern takes the replacement character and the two code points behind it for one another,
and an index does not; this is the only difference between them, so a row whose owner and title hold
none of the three is found for every pattern (`Row.IsPlain.isFoundBy`).

A row is found for a condition that holds of it if the indexes find it for each of the condition's
patterns (`Condition.IsFound`).
-/

namespace TagSearch

/-- The owner and the title hold no confusable character. -/
def Row.IsPlain (r : Row) : Prop :=
  (∀ c ∈ r.owner.toList, isConfusable c = false) ∧ ∀ c ∈ r.title.toList, isConfusable c = false

/-- The text begins as the pattern does, letter case aside, if it fits the pattern. -/
def BeginsAs (pattern text : String) : Prop :=
  isLike text pattern = true →
    Path.beginsWith (Path.start (untilNull pattern.toList)) text.toList = true

/-- The index of a column, if that has one for patterns, finds the row for a pattern. -/
def Row.IsFoundBy (r : Row) (c : Column) (pattern : String) : Prop :=
  match c with
  | .owner => BeginsAs pattern r.owner
  | .title => BeginsAs pattern r.title
  | _ => True

/-! ## Patterns of a condition -/

namespace Condition

mutual

/-- The patterns that columns must fit, each with its column. -/
def likes : Condition Value → List (Column × String)
  | .group c => c.likes
  | .all cs => likesOf cs
  | .any cs => likesOf cs
  | .like false (.column c) (.parameter (.text pattern)) => [(c, pattern)]
  | _ => []

/-- The patterns of several conditions. -/
def likesOf : List (Condition Value) → List (Column × String)
  | [] => []
  | c :: cs => c.likes ++ likesOf cs

end

/-- The indexes find the row for each pattern of a list. -/
def IsFoundByAll (r : Row) (ls : List (Column × String)) : Prop := ∀ l ∈ ls, r.IsFoundBy l.1 l.2

theorem isFoundByAll_append {r : Row} {ls ms : List (Column × String)} :
    IsFoundByAll r (ls ++ ms) ↔ IsFoundByAll r ls ∧ IsFoundByAll r ms := List.forall_mem_append

/-- The condition holds of the row on a day, and the indexes find the row for it. -/
structure IsFound (today : Calendar.Date) (r : Row) (c : Condition Value) : Prop where
  holds : c.truth today r = .holds
  found : IsFoundByAll r c.likes

end Condition

/-! ## Rows without confusable characters -/

namespace Path

theorem beginsWith_of_fitsLike {pattern text : List Char} (h : fitsLike pattern text = true)
    (ht : ∀ c ∈ text, isConfusable c = false) : beginsWith (start pattern) text = true := by
  induction pattern generalizing text with
  | nil => simp [start, beginsWith]
  | cons p pattern ih =>
    by_cases hp : p = '%' ∨ p = '_'
    · rcases hp with rfl | rfl <;> simp [start, beginsWith]
    · simp only [not_or] at hp
      cases text with
      | nil => simp [fitsLike, hp.1] at h
      | cons c rest =>
        simp [fitsLike, hp.1, hp.2] at h
        have hc := toLower_eq_of_likeForm_eq h.1 (ht c (by simp))
        have hrest := ih h.2 fun d hd => ht d (by simp [hd])
        simp only [beginsWith] at hrest
        simp [start, beginsWith, hp.1, hp.2, hc]
        simpa [start] using hrest

theorem beginsWith_untilNull {start text : List Char}
    (h : beginsWith start (untilNull text) = true) : beginsWith start text = true := by
  simp only [beginsWith, List.isPrefixOf_iff_prefix] at h ⊢
  exact h.trans ((List.takeWhile_prefix _).map _)

theorem beginsAs_of_plain {text : String} (ht : ∀ c ∈ text.toList, isConfusable c = false)
    (pattern : String) : BeginsAs pattern text := by
  intro h
  exact beginsWith_untilNull (beginsWith_of_fitsLike h fun d hd =>
    ht d ((List.takeWhile_prefix _).subset hd))

end Path

/-- A row without confusable characters is found for every pattern. -/
theorem Row.IsPlain.isFoundBy {r : Row} (hr : r.IsPlain) (c : Column) (pattern : String) :
    r.IsFoundBy c pattern := by
  unfold Row.IsFoundBy
  split
  · exact Path.beginsAs_of_plain hr.1 pattern
  · exact Path.beginsAs_of_plain hr.2 pattern
  · trivial

end TagSearch
