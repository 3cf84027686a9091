import TagSearch.Proofs.Text.Joined
import TagSearch.Proofs.Text.Trimmed
import TagSearch.Store.Ordering

/-!
# The order of rows is an order

Cells are ordered by their class, then as numbers, then as texts (`Cell.order_eq`), so their order is
total and transitive.  A list of keys orders rows key after key, all in one direction, and is total
and transitive with its keys.

So a sort of rows is sorted (`pairwise_isLE_sortRows`), and where the keys tell all rows apart it is
strictly sorted (`pairwise_lt_sortRows`); then no other order of the rows is (`eq_of_pairwise_lt`).

The keys are given by their canonical names, and no two lists of keys are written alike
(`sortKeys_names`).
-/

namespace TagSearch

open Std

/-! ## Cells -/

namespace Cell

/-- The text of a cell that holds one. -/
def textKey : Cell → String
  | .text s => s
  | _ => ""

/-- The place of a number among the numbers; any other cell has the place of zero. -/
def numberKey (c : Cell) : Int := c.position?.getD 0

theorem rank_le_one {c : Cell} (h : ∀ s, c ≠ .text s) : c.rank ≤ 1 := by
  unfold rank
  split
  · next s => exact absurd rfl (h s)
  · split <;> omega

theorem textKey_eq_empty {c : Cell} (h : ∀ s, c ≠ .text s) : c.textKey = "" := by
  cases c with
  | text s => exact absurd rfl (h s)
  | _ => rfl

theorem order_of_ne_text {a b : Cell} (h : (∀ s, a ≠ .text s) ∨ ∀ s, b ≠ .text s) :
    a.order b = (compare a.rank b.rank).then (compare a.numberKey b.numberKey) := by
  unfold order
  split
  · next s t => rcases h with h | h <;> exact absurd rfl (h _)
  · rfl

/-- Cells are ordered by class, then by number, then by text. -/
theorem order_eq (a b : Cell) :
    a.order b = (compare a.rank b.rank).then
      ((compare a.numberKey b.numberKey).then (compare a.textKey b.textKey)) := by
  -- Texts are the highest class, so only two texts are compared as far as their characters.
  by_cases ha : ∃ s, a = .text s
  · obtain ⟨s, rfl⟩ := ha
    by_cases hb : ∃ t, b = .text t
    · obtain ⟨t, rfl⟩ := hb
      show compare s t = (compare 2 2).then ((compare (0 : Int) 0).then (compare s t))
      simp
    · simp only [not_exists] at hb
      have hlt := rank_le_one hb
      have hgt : compare (Cell.text s).rank b.rank = .gt := by
        rw [Nat.compare_eq_gt]
        show b.rank < 2
        omega
      rw [order_of_ne_text (.inr hb), hgt]
      rfl
  · simp only [not_exists] at ha
    rw [order_of_ne_text (.inl ha)]
    by_cases hb : ∃ t, b = .text t
    · obtain ⟨t, rfl⟩ := hb
      have hlt : compare a.rank (Cell.text t).rank = .lt := by
        rw [Nat.compare_eq_lt]
        show a.rank < 2
        have := rank_le_one ha
        omega
      rw [hlt]
      rfl
    · simp only [not_exists] at hb
      rw [textKey_eq_empty ha, textKey_eq_empty hb]
      simp

theorem order_eq_compareLex : order =
    compareLex (compareOn rank) (compareLex (compareOn numberKey) (compareOn textKey)) := by
  funext a b
  exact order_eq a b

instance instTransCmp_order : TransCmp order := by
  rw [order_eq_compareLex]
  infer_instance

end Cell

/-! ## Rows -/

theorem transCmp_eq {α : Type} : TransCmp fun _ _ : α => Ordering.eq where
  eq_swap := rfl
  isLE_trans _ _ := rfl

theorem transCmp_on {α β : Type} {cmp : β → β → Ordering} (h : TransCmp cmp) (f : α → β) :
    TransCmp fun a b => cmp (f a) (f b) where
  eq_swap := h.eq_swap
  isLE_trans := h.isLE_trans

theorem SortKey.transCmp_order (key : SortKey) : TransCmp key.order := by
  unfold SortKey.order
  cases key.expression? with
  | none => exact transCmp_eq
  | some e => exact transCmp_on Cell.instTransCmp_order fun r => e.eval .epoch r

/-- The order of a key in a direction. -/
def directed (direction : Direction) (cmp : Row → Row → Ordering) (a b : Row) : Ordering :=
  match direction with
  | .ascending => cmp a b
  | .descending => (cmp a b).swap

theorem transCmp_directed {cmp : Row → Row → Ordering} (h : TransCmp cmp) (direction : Direction) :
    TransCmp (directed direction cmp) := by
  cases direction with
  | ascending => exact h
  | descending =>
    have hswap : directed .descending cmp = fun a b => cmp b a := by
      funext a b
      exact h.eq_swap.symm
    rw [hswap]
    infer_instance

theorem rowOrder_cons (direction : Direction) (key : SortKey) (keys : List SortKey) :
    rowOrder direction (key :: keys) =
      compareLex (directed direction key.order) (rowOrder direction keys) := by
  funext a b
  cases direction <;> rfl

/-- A list of keys orders rows. -/
instance transCmp_rowOrder (direction : Direction) (keys : List SortKey) :
    TransCmp (rowOrder direction keys) := by
  induction keys with
  | nil => exact transCmp_eq
  | cons key keys ih =>
    have hkey := transCmp_directed key.transCmp_order direction
    rw [rowOrder_cons]
    infer_instance

theorem rowOrder_swap (direction : Direction) (keys : List SortKey) (a b : Row) :
    rowOrder direction keys b a = (rowOrder direction keys a b).swap :=
  OrientedCmp.eq_swap

/-! ## Names of keys -/

theorem SortKey.name_plain (key : SortKey) :
    ∀ c ∈ key.name.toList, c ≠ ',' ∧ Text.isWhite c = false := by
  have hall : (key.name.toList.all fun c => c != ',' && !Text.isWhite c) = true := by
    cases key <;> decide +kernel
  intro c hc
  simpa using List.all_eq_true.1 hall c hc

theorem toList_intercalate_names (keys : List SortKey) :
    (",".intercalate (keys.map SortKey.name)).toList =
      [','].intercalate (keys.map fun key => key.name.toList) := by
  rw [String.toList_intercalate, List.map_map, show ",".toList = [','] from rfl]
  rfl

/-- Keys are read back from their canonical names. -/
theorem sortKeys_names {keys : List SortKey} (hkeys : keys ≠ []) :
    sortKeys (",".intercalate (keys.map SortKey.name)) = keys := by
  have hsplit : (",".intercalate (keys.map SortKey.name)).toList.splitOn ',' =
      keys.map fun key => key.name.toList := by
    have hcomma : ∀ name ∈ keys.map fun key => key.name.toList, ',' ∉ name := by
      intro name hname hmem
      obtain ⟨key, -, rfl⟩ := List.mem_map.1 hname
      exact (key.name_plain ',' hmem).1 rfl
    rw [toList_intercalate_names]
    exact List.splitOn_intercalate ',' hcomma (by simpa using hkeys)
  have hread : ((fun name => SortKey.ofName? (String.ofList (Text.trim name))) ∘
      fun key : SortKey => key.name.toList) = some := by
    funext key
    rw [Function.comp_apply, Text.trim_eq_self fun c hc => (key.name_plain c hc).2,
      String.ofList_toList, SortKey.ofName?_name]
  unfold sortKeys
  rw [hsplit, List.filterMap_map, hread, List.filterMap_some]
  cases keys with
  | nil => exact absurd rfl hkeys
  | cons key keys => rfl

/-! ## Sorted rows -/

/-- The keys order the rows in just one way: none of them is random, and they tell any two rows
apart. -/
structure IsDecisive (direction : Direction) (keys : List SortKey) (rows : List Row) : Prop where
  notRandom : SortKey.random ∉ keys
  apart : rows.Pairwise fun a b => rowOrder direction keys a b ≠ .eq

section

variable (keys : List SortKey) (direction : Direction) (rows : List Row)

theorem sortRows_perm : (sortRows keys direction rows).Perm rows :=
  List.mergeSort_perm rows _

theorem pairwise_isLE_sortRows : (sortRows keys direction rows).Pairwise fun a b =>
    (rowOrder direction keys a b).isLE = true := by
  unfold sortRows
  apply List.pairwise_mergeSort
  · intro a b c hab hbc
    exact TransCmp.isLE_trans hab hbc
  · intro a b
    rw [rowOrder_swap direction keys a b]
    cases rowOrder direction keys a b <;> rfl

variable {keys direction rows}

theorem IsDecisive.perm {others : List Row} (h : IsDecisive direction keys rows)
    (hp : rows.Perm others) : IsDecisive direction keys others where
  notRandom := h.notRandom
  apart := by
    refine hp.pairwise h.apart ?_
    intro a b hab hba
    rw [rowOrder_swap direction keys b a, hba] at hab
    exact hab rfl

theorem IsDecisive.sublist {others : List Row} (h : IsDecisive direction keys rows)
    (hsub : others.Sublist rows) : IsDecisive direction keys others where
  notRandom := h.notRandom
  apart := h.apart.sublist hsub

theorem pairwise_lt_of_isLE
    (hsorted : rows.Pairwise fun a b => (rowOrder direction keys a b).isLE = true)
    (h : IsDecisive direction keys rows) :
    rows.Pairwise fun a b => rowOrder direction keys a b = .lt := by
  refine (hsorted.and h.apart).imp ?_
  rintro a b ⟨hle, hne⟩
  cases horder : rowOrder direction keys a b with
  | lt => rfl
  | eq => exact absurd horder hne
  | gt =>
    rw [horder] at hle
    cases hle

theorem pairwise_lt_sortRows (h : IsDecisive direction keys rows) :
    (sortRows keys direction rows).Pairwise fun a b => rowOrder direction keys a b = .lt :=
  pairwise_lt_of_isLE (pairwise_isLE_sortRows keys direction rows)
    (h.perm (sortRows_perm keys direction rows).symm)

/-- There is just one strictly ascending order of the same rows. -/
theorem eq_of_pairwise_lt {others : List Row} (hperm : rows.Perm others)
    (hrows : rows.Pairwise fun a b => rowOrder direction keys a b = .lt)
    (hothers : others.Pairwise fun a b => rowOrder direction keys a b = .lt) : rows = others := by
  refine hperm.eq_of_pairwise (fun a b _ _ hab hba => ?_) hrows hothers
  rw [rowOrder_swap, hab] at hba
  cases hba

end

end TagSearch
