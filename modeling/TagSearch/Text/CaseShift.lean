/-!
# Case maps as shifts

Alphabets place the two forms of their letters at a constant distance, either as two blocks or as
alternating pairs.  A case map is a list of such shifts, ascending and disjoint.
-/

namespace TagSearch.Text

/-- Every `stride`-th code point from `first` to `last` moves by `offset`. -/
structure CaseShift where
  /-- The first code point that moves. -/
  first : Nat
  /-- The last code point that moves. -/
  last : Nat
  /-- The distance of neighbouring code points that move. -/
  stride : Nat
  /-- How far each of them moves. -/
  offset : Int

/-- The code point that the shifts send `n` to; a code point that no shift moves stays. -/
def CaseShift.target : List CaseShift → Nat → Nat
  | [], n => n
  | s :: rest, n =>
    if n < s.first then n
    else if n ≤ s.last ∧ (n - s.first) % s.stride = 0 then (n + s.offset : Int).toNat
    else CaseShift.target rest n

/-- The character that the shifts send `c` to. -/
def CaseShift.apply (shifts : List CaseShift) (c : Char) : Char :=
  Char.ofNat (CaseShift.target shifts c.toNat)

end TagSearch.Text
