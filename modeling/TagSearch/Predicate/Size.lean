import TagSearch.Predicate.Condition

/-!
# The size of conditions

A database refuses conditions that are too large for it.  It counts how deep the tree of a condition
is, where parentheses do not count and what is joined by AND or OR is joined from left to right, and how
long the patterns are that texts are held against.
-/

namespace TagSearch

/-- How deep the tree of an expression is. -/
def Scalar.depth {α : Type} : Scalar α → Nat
  | .column _ | .parameter _ | .number _ => 1
  | .length s | .withoutCommas s | .asReal s | .asText s | .lower s | .day s => s.depth + 1
  | .add s t | .sub s t | .div s t => max s.depth t.depth + 1
  | .group s => s.depth

/-- How deep a tree gets if parts of given depths are joined from left to right. -/
def joinedDepth : List Nat → Nat
  | [] => 0
  | d :: ds => ds.foldl (fun joined d => max joined d + 1) d

namespace Condition

variable {α : Type}

mutual

/-- How deep the tree of a condition is. -/
def depth : Condition α → Nat
  | .always => 2
  | .compare _ s t => max s.depth t.depth + 1
  | .like negated s pattern => max s.depth pattern.depth + if negated then 2 else 1
  | .present s => s.depth + 1
  | .group c => c.depth
  | .all cs | .any cs => joinedDepth (depths cs)

/-- How deep the trees of several conditions are. -/
def depths : List (Condition α) → List Nat
  | [] => []
  | c :: cs => c.depth :: depths cs

end

mutual

/-- The patterns that texts are held against. -/
def patterns : Condition Value → List String
  | .like _ _ (.parameter (.text pattern)) => [pattern]
  | .group c => c.patterns
  | .all cs | .any cs => patternsOf cs
  | _ => []

/-- The patterns of several conditions. -/
def patternsOf : List (Condition Value) → List String
  | [] => []
  | c :: cs => c.patterns ++ patternsOf cs

end

end Condition

end TagSearch
