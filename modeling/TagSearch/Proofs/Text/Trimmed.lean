import Mathlib.Data.List.DropRight
import TagSearch.Text.White

/-!
# Trimmed texts

What is put around a text is stripped off again exactly (`stripEnds_append`).  Trimming leaves nothing of
white space, and otherwise a text without white space at either end.
-/

namespace TagSearch.Text

theorem dropEndWhile_eq_rdropWhile (p : Char → Bool) (cs : List Char) :
    dropEndWhile p cs = cs.rdropWhile p := rfl

section

variable {p : Char → Bool} {opening cs closing : List Char}

theorem dropWhile_append (hopening : ∀ c ∈ opening, p c = true) (h : ∀ c ∈ cs, p c = false)
    (hcs : cs ≠ []) : (opening ++ cs ++ closing).dropWhile p = cs ++ closing := by
  rw [List.append_assoc, List.dropWhile_append_of_pos hopening]
  cases cs with
  | nil => exact absurd rfl hcs
  | cons c cs =>
    rw [List.cons_append, List.dropWhile_cons_of_neg (by simp [h c List.mem_cons_self])]

/-- Whatever is put around a text is stripped off again, and nothing else is. -/
theorem stripEnds_append (hopening : ∀ c ∈ opening, p c = true) (hclosing : ∀ c ∈ closing, p c = true)
    (h : ∀ c ∈ cs, p c = false) (hcs : cs ≠ []) : stripEnds p (opening ++ cs ++ closing) = cs := by
  have hreverse : (cs ++ closing).reverse = closing.reverse ++ cs.reverse ++ [] := by
    rw [List.reverse_append, List.append_nil]
  rw [stripEnds, dropEndWhile, dropWhile_append hopening h hcs, hreverse,
    dropWhile_append (fun c hc => hclosing c (List.mem_reverse.1 hc))
      (fun c hc => h c (List.mem_reverse.1 hc)) (List.reverse_ne_nil_iff.2 hcs),
    List.append_nil, List.reverse_reverse]

end

theorem trim_eq_self {cs : List Char} (h : ∀ c ∈ cs, isWhite c = false) : trim cs = cs := by
  by_cases hcs : cs = []
  · rw [hcs]
    rfl
  · have hstrip : stripEnds isWhite ([] ++ cs ++ []) = cs := stripEnds_append (by simp) (by simp) h hcs
    rwa [List.nil_append, List.append_nil] at hstrip

theorem trim_eq_nil_iff {cs : List Char} : trim cs = [] ↔ ∀ c ∈ cs, isWhite c = true := by
  rw [trim, stripEnds, dropEndWhile_eq_rdropWhile, List.rdropWhile_eq_nil_iff]
  constructor
  · intro h
    -- What is left at the front does not begin with white space.
    rw [← List.dropWhile_eq_nil_iff]
    cases hfront : cs.dropWhile isWhite with
    | nil => rfl
    | cons c rest =>
      have hc : isWhite c = true := h c (by rw [hfront]; exact List.mem_cons_self)
      have hstop := List.head?_dropWhile_not isWhite cs
      simp [hfront, hc] at hstop
  · intro h c hc
    exact h c ((List.dropWhile_sublist _).mem hc)

theorem trim_isPrefix (cs : List Char) : trim cs <+: cs.dropWhile isWhite :=
  List.rdropWhile_prefix isWhite (cs.dropWhile isWhite)

theorem mem_of_mem_trim {cs : List Char} {c : Char} (h : c ∈ trim cs) : c ∈ cs :=
  (List.dropWhile_sublist _).mem ((trim_isPrefix cs).subset h)

theorem not_mem_of_trim {cs : List Char} (h : trim cs = []) {c : Char} (hc : isWhite c = false) :
    c ∉ cs := by
  intro hmem
  rw [trim_eq_nil_iff.1 h c hmem] at hc
  cases hc

theorem any_getLast?_trim (cs : List Char) : (trim cs).getLast?.any isWhite = false := by
  by_cases h : trim cs = []
  · rw [h]
    rfl
  · have hlast : ¬isWhite ((trim cs).getLast h) = true :=
      List.rdropWhile_last_not isWhite (cs.dropWhile isWhite) h
    rw [List.getLast?_eq_some_getLast h]
    simpa using hlast

theorem any_head?_trim (cs : List Char) : (trim cs).head?.any isWhite = false := by
  cases htrim : trim cs with
  | nil => rfl
  | cons c rest =>
    obtain ⟨back, hback⟩ := trim_isPrefix cs
    have hstop := List.head?_dropWhile_not isWhite cs
    rw [htrim] at hback
    rw [← hback] at hstop
    simpa using hstop

end TagSearch.Text
