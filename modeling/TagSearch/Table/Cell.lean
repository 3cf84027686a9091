import TagSearch.Double.Layout

/-!
# Cells

A cell of the table of posts is nothing, a number or a text.  Nothing compares with no other cell; in
a sort it comes first, numbers come before texts, and texts are ordered by code point.
-/

namespace TagSearch

/-- A value in the table of posts. -/
inductive Cell where
  | null
  | integer (n : Int)
  | real (x : Double)
  | text (s : String)
deriving DecidableEq

namespace Cell

/-- The position of a number among all numbers, in units of the least positive double. -/
def position? : Cell → Option Int
  | .integer n => some (n * Double.one)
  | .real x => x.signedUnits?
  | _ => none

/-- The place of a cell's class in a sort. -/
def rank (c : Cell) : Nat :=
  match c with
  | .text _ => 2
  | _ => if c.position?.isSome then 1 else 0

/-- The order in which cells are sorted. -/
def order (a b : Cell) : Ordering :=
  match a, b with
  | .text s, .text t => compare s t
  | _, _ => (compare a.rank b.rank).then (compare (a.position?.getD 0) (b.position?.getD 0))

/-- How two cells compare, if neither is null. -/
def compare? (a b : Cell) : Option Ordering :=
  if a.rank = 0 || b.rank = 0 then none else some (a.order b)

/-- The text of a cell that is not null. -/
def toText? : Cell → Option String
  | .null => none
  | .integer n => some (Text.intText n)
  | .real x => some (Layout.column.write x)
  | .text s => some s

/-- The cell of a text or of nothing. -/
def ofText? : Option String → Cell
  | some s => .text s
  | none => .null

/-- The cell of a real number; not-a-number is null. -/
def ofReal (x : Double) : Cell :=
  match x with
  | .nan => .null
  | x => .real x

end Cell

end TagSearch
