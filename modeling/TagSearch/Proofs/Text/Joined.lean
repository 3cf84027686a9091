import Mathlib.Data.List.Infix

/-!
# Joined texts

What is in a joined text is in the separator or in one of the parts (`mem_of_mem_intercalate`).  Every part
is a stretch of it (`infix_intercalate_of_mem`), and the last part ends it (`suffix_intercalate`).
-/

namespace TagSearch.Text

section

variable {α : Type} {separator : List α} {parts : List (List α)}

theorem mem_of_mem_intercalate {a : α} (h : a ∈ separator.intercalate parts) :
    a ∈ separator ∨ ∃ part ∈ parts, a ∈ part := by
  induction parts with
  | nil => cases h
  | cons part parts ih =>
    cases parts with
    | nil =>
      rw [List.intercalate_singleton] at h
      exact .inr ⟨part, List.mem_cons_self, h⟩
    | cons next parts =>
      rw [List.intercalate_cons_cons, List.mem_append, List.mem_append] at h
      rcases h with (h | h) | h
      · exact .inr ⟨part, List.mem_cons_self, h⟩
      · exact .inl h
      · refine (ih h).imp_right ?_
        rintro ⟨other, hother, ha⟩
        exact ⟨other, List.mem_cons_of_mem _ hother, ha⟩

theorem suffix_intercalate {last : List α} (h : parts.getLast? = some last) :
    last <:+ separator.intercalate parts := by
  induction parts with
  | nil => cases h
  | cons part parts ih =>
    cases parts with
    | nil =>
      obtain rfl : part = last := Option.some.inj h
      rw [List.intercalate_singleton]
    | cons next parts =>
      rw [List.getLast?_cons_cons] at h
      rw [List.intercalate_cons_cons]
      exact (ih h).trans (List.suffix_append ..)

theorem infix_intercalate_of_mem {part : List α} (h : part ∈ parts) :
    part <:+: separator.intercalate parts := by
  induction parts with
  | nil => cases h
  | cons first parts ih =>
    cases parts with
    | nil =>
      obtain rfl := List.mem_singleton.1 h
      rw [List.intercalate_singleton]
    | cons second parts =>
      rw [List.intercalate_cons_cons]
      rcases List.mem_cons.1 h with rfl | h
      · rw [List.append_assoc]
        exact (List.prefix_append ..).isInfix
      · exact (ih h).trans (List.suffix_append ..).isInfix

end

end TagSearch.Text
