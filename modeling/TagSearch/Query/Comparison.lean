/-!
# Comparisons

The six comparisons of two ordered things, each with its complement and its mirror image.  Two things
need not be comparable; then only `ne` holds.
-/

namespace TagSearch

/-- How a stored value must stand to an operand. -/
inductive Comparison where
  | eq
  | ne
  | lt
  | le
  | gt
  | ge
deriving DecidableEq

namespace Comparison

/-- The comparison that a glyph in front of an operand asks for; inequality has no glyph. -/
def ofGlyph? (glyph : String) : Option Comparison :=
  if glyph = "=" then some .eq
  else if glyph = "<" then some .lt
  else if glyph = "<=" then some .le
  else if glyph = ">" then some .gt
  else if glyph = ">=" then some .ge
  else none

/-- The comparison seen from the other side: `a < b` is `b > a`. -/
def mirror : Comparison → Comparison
  | .eq => .eq
  | .ne => .ne
  | .lt => .gt
  | .le => .ge
  | .gt => .lt
  | .ge => .le

/-- The comparison that holds of two comparable things exactly when this one does not. -/
def complement : Comparison → Comparison
  | .eq => .ne
  | .ne => .eq
  | .lt => .ge
  | .le => .gt
  | .gt => .le
  | .ge => .lt

/-- The spelling in SQL. -/
def sql : Comparison → String
  | .eq => "="
  | .ne => "!="
  | .lt => "<"
  | .le => "<="
  | .gt => ">"
  | .ge => ">="

/-- Whether two things compare so, given how the first stands to the second, if at all. -/
def holds : Comparison → Option Ordering → Bool
  | .eq, o => o == some .eq
  | .ne, o => o != some .eq
  | .lt, o => o == some .lt
  | .le, o => o == some .lt || o == some .eq
  | .gt, o => o == some .gt
  | .ge, o => o == some .gt || o == some .eq

/-- The complement, if the filter that holds the comparison is negated. -/
def negatedIf (negated : Bool) (c : Comparison) : Comparison :=
  if negated then c.complement else c

@[simp] theorem mirror_mirror (c : Comparison) : c.mirror.mirror = c := by
  cases c <;> rfl

/-- Of two comparable things a comparison holds exactly when its complement does not. -/
theorem holds_complement (c : Comparison) (o : Ordering) :
    c.complement.holds (some o) = !c.holds (some o) := by
  cases c <;> cases o <;> rfl

end Comparison

end TagSearch
