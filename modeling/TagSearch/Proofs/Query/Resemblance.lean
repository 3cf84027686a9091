import TagSearch.Proofs.Query.Grouping

/-!
# Scans that find the same

What a scan finds does not depend on all of its state.  White space in front of the pending text is in no
term, and of the characters behind it a scan sees only whether they end in a field, which nothing behind
a space has a part in (`endsInField_append_space`).

A scan that `Resembles` another in the rest finds what the other finds, character by character
(`Resembles.read`) and so in any text (`Resembles.tokens_eq`).
-/

namespace TagSearch

open Text

namespace Scan

/-- The scans differ at most by white space in front of the pending text of the first, and by past
characters that make no difference to a parenthesis. -/
structure Resembles (s t : Scan) : Prop where
  pending : ∃ blank, (∀ c ∈ blank, isWhite c = true) ∧ s.pending = blank ++ t.pending
  depth : s.depth = t.depth
  inValue : s.inValue = t.inValue
  past : ∀ cs, endsInField (cs ++ s.past) = endsInField (cs ++ t.past)

/-- The same tokens are found, and the scans behind them resemble each other. -/
def FindsAlike (found found' : List Token × Scan) : Prop :=
  found.1 = found'.1 ∧ Resembles found.2 found'.2

/-- One looks back for the name of a field as far as there is no white space. -/
theorem endsInField_append_space (xs more : List Char) :
    endsInField (xs ++ ' ' :: more) = endsInField xs := by
  have hspace : (!isWhite ' ') = false := by decide
  have hrun : (xs ++ ' ' :: more).takeWhile (fun c => !isWhite c) =
      xs.takeWhile fun c => !isWhite c := by
    rw [List.takeWhile_append]
    split
    · next h =>
      rw [List.takeWhile_cons_of_neg (by simp [hspace]), List.append_nil]
      exact ((List.takeWhile_prefix _).eq_of_length h).symm
    · rfl
  rw [endsInField, endsInField, ← List.take_takeWhile, ← List.take_takeWhile, hrun]

theorem any_getLast?_append {p : Char → Bool} {blank : List Char}
    (h : blank.getLast?.any p = false) (cs : List Char) :
    (blank ++ cs).getLast?.any p = cs.getLast?.any p := by
  rcases List.eq_nil_or_concat cs with rfl | ⟨ds, d, rfl⟩
  · rw [List.append_nil, h]
    rfl
  · simp

namespace Resembles

variable {s t : Scan}

/-! ## The pending text -/

theorem trim_pending (h : Resembles s t) : trim s.pending = trim t.pending := by
  obtain ⟨blank, hblank, hpending⟩ := h.pending
  rw [hpending, trim, trim, stripEnds, stripEnds, List.dropWhile_append_of_pos hblank]

theorem endsInWord_pending (h : Resembles s t) : endsInWord s.pending = endsInWord t.pending := by
  obtain ⟨blank, hblank, hpending⟩ := h.pending
  rw [hpending]
  exact any_getLast?_append (endsInWord_of_trim (trim_eq_nil_iff.2 hblank)) _

theorem endsAlphanumeric_pending (h : Resembles s t) :
    s.pending.getLast?.any isAlphanumeric = t.pending.getLast?.any isAlphanumeric := by
  obtain ⟨blank, hblank, hpending⟩ := h.pending
  rw [hpending]
  exact any_getLast?_append (endsAlphanumeric_of_trim (trim_eq_nil_iff.2 hblank)) _

theorem hasOpenParenthesis_pending (h : Resembles s t) :
    hasOpenParenthesis s.pending = hasOpenParenthesis t.pending := by
  obtain ⟨blank, hblank, hpending⟩ := h.pending
  have hnone (c : Char) (hc : isWhite c = false) : blank.count c = 0 := by
    rw [List.count_eq_zero]
    intro hmem
    simp [hblank c hmem] at hc
  unfold hasOpenParenthesis
  rw [hpending, List.count_append, List.count_append, hnone '(' (by decide), hnone ')' (by decide),
    Nat.zero_add, Nat.zero_add]

/-! ## One character -/

theorem append (h : Resembles s t) (c : Char) : Resembles (s.append c) (t.append c) := by
  obtain ⟨blank, hblank, hpending⟩ := h.pending
  exact ⟨⟨blank, hblank, by simp [Scan.append, hpending]⟩, h.depth, h.inValue, h.past⟩

theorem flush (h : Resembles s t) : FindsAlike s.flush t.flush := by
  unfold Scan.flush
  rw [h.trim_pending]
  dsimp only
  split
  · exact ⟨rfl, h⟩
  · exact ⟨rfl, ⟨⟨[], by simp, rfl⟩, h.depth, h.inValue, h.past⟩⟩

theorem flushThen (h : Resembles s t) (token : Token) :
    FindsAlike (s.flushThen token) (t.flushThen token) := by
  obtain ⟨htokens, hscan⟩ := h.flush
  unfold Scan.flushThen
  exact ⟨congrArg (· ++ [token]) htokens, hscan⟩

theorem openParenthesis (h : Resembles s t) : FindsAlike s.openParenthesis t.openParenthesis := by
  have hfield : endsInField s.past = endsInField t.past := h.past []
  unfold Scan.openParenthesis
  rw [h.inValue, hfield, h.endsInWord_pending, h.depth]
  split
  · exact ⟨rfl, h.append '('⟩
  · by_cases hd : t.depth = 0
    · simp only [if_pos hd]
      obtain ⟨htokens, hscan⟩ := h.flushThen .groupStart
      exact ⟨htokens, hscan.pending, congrArg (· + 1) hscan.depth, hscan.inValue, hscan.past⟩
    · simp only [if_neg hd]
      exact ⟨rfl, h.pending, congrArg (· + 1) h.depth, h.inValue, h.past⟩

theorem closeParenthesis (h : Resembles s t) (r : List Char) :
    FindsAlike (s.closeParenthesis r) (t.closeParenthesis r) := by
  have hfield : endsInField (')' :: s.past) = endsInField (')' :: t.past) := h.past [')']
  unfold Scan.closeParenthesis
  rw [h.inValue, hfield, h.depth, h.hasOpenParenthesis_pending]
  split
  · exact ⟨rfl, h.append ')'⟩
  · obtain ⟨htokens, hscan⟩ := h.flushThen .groupEnd
    exact ⟨htokens, hscan.pending, congrArg (· - 1) hscan.depth, hscan.inValue, hscan.past⟩

theorem space (h : Resembles s t) (r : List Char) : FindsAlike (s.space r) (t.space r) := by
  unfold Scan.space
  rw [h.depth, h.trim_pending]
  split_ifs
  · exact h.flush
  · exact ⟨rfl, h⟩
  · exact h.flush
  · exact ⟨rfl, h.append ' '⟩

theorem read (h : Resembles s t) (c : Char) (r : List Char) :
    FindsAlike (s.read c r) (t.read c r) := by
  unfold Scan.read
  rw [h.endsAlphanumeric_pending]
  split
  · exact ⟨rfl, (h.append ':').pending, h.depth, rfl, h.past⟩
  · have hvalue : Resembles
        (if c == ' ' && s.depth == 0 then { s with inValue := false } else s)
        (if c == ' ' && t.depth == 0 then { t with inValue := false } else t) := by
      rw [h.depth]
      split
      · exact ⟨h.pending, rfl, rfl, h.past⟩
      · exact h
    dsimp only
    generalize (if c == ' ' && s.depth == 0 then { s with inValue := false } else s) = s',
      (if c == ' ' && t.depth == 0 then { t with inValue := false } else t) = t' at hvalue ⊢
    rw [hvalue.depth]
    split_ifs
    · exact hvalue.openParenthesis
    · exact hvalue.closeParenthesis r
    · exact hvalue.flushThen _
    · exact hvalue.flushThen _
    · exact hvalue.space r
    · exact ⟨rfl, hvalue.append c⟩

theorem step (h : Resembles s t) (c : Char) (r : List Char) :
    FindsAlike (s.step c r) (t.step c r) := by
  obtain ⟨htokens, hscan⟩ := h.read c r
  refine ⟨htokens, hscan.pending, hscan.depth, hscan.inValue, fun cs => ?_⟩
  show endsInField (cs ++ c :: s.past) = endsInField (cs ++ c :: t.past)
  simpa using h.past (cs ++ [c])

/-! ## Many characters -/

/-- Scans that resemble each other find the same tokens in the same text. -/
theorem tokens_eq (h : Resembles s t) (cs : List Char) : s.tokens cs = t.tokens cs := by
  induction cs generalizing s t with
  | nil => exact h.flush.1
  | cons c cs ih =>
    obtain ⟨htokens, hscan⟩ := h.step c cs
    show (s.step c cs).1 ++ (s.step c cs).2.tokens cs = (t.step c cs).1 ++ (t.step c cs).2.tokens cs
    rw [htokens, ih hscan]

end Resembles

end Scan

end TagSearch
