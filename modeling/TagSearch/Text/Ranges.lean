/-!
# Sets of code points

A property of characters is a list of ascending, disjoint, closed ranges of code points.  Looking a
code point up stops at the first range that starts after it.
-/

namespace TagSearch.Text

/-- Closed ranges of code points, ascending and disjoint. -/
abbrev Ranges := List (Nat × Nat)

/-- Some range holds the code point. -/
def Ranges.contains : Ranges → Nat → Bool
  | [], _ => false
  | (first, last) :: rest, n =>
    if n < first then false
    else if n ≤ last then true
    else Ranges.contains rest n

end TagSearch.Text
