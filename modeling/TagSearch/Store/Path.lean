import TagSearch.Store.Statement

/-!
# Paths to rows

The database looks at every row, or it follows a path to those that can satisfy a condition.  The
indexes of owner and title are such paths: a pattern that begins with characters of its own leads to
the rows whose text begins with them.  An index tells all characters apart except for ASCII letter
case, also those that a pattern takes for the same, so a row that fits a pattern is found only if the
chosen path leads to it.

Which path is followed is the database's own affair.  The choice here is that of a database that knows
nothing of the rows: a value leaves fewer of them than two bounds or the beginning of a text, and these
fewer than one bound.  Where rows are only counted, an index that holds all columns that are asked for
goes before the table itself.
-/

namespace TagSearch

/-- A way to the rows that may satisfy a condition. -/
structure Path where
  /-- Of several paths the one of least rank is followed. -/
  rank : Nat
  leadsTo : Row → Bool

namespace Path

/-- A path that leads to every row, or misses only rows that fail a comparison. -/
def toAll (rank : Nat) : Path := ⟨rank, fun _ => true⟩

/-- The path to every row. -/
def table : Path := toAll 30

/-- Of two paths the one of less rank; of equal ones the second. -/
def better (p q : Path) : Path := if q.rank ≤ p.rank then q else p

/-- The best of several paths. -/
def best (ps : List Path) : Path := ps.foldl better table

/-- The path to the rows that have some value in a column. -/
def ofValue? : Column → Option Path
  | .postId => some (toAll 0)
  | .status | .width | .fileSize => some (toAll 1)
  | _ => none

/-- The path to the rows between two bounds in a column, or on one side of a bound.  Numbers of posts
are the order in which the table itself is kept, so no index has to be read for them. -/
def ofBounds? (c : Column) (hasLower hasUpper : Bool) : Option Path :=
  if hasLower && hasUpper then some (toAll (if c = .postId then 6 else 7))
  else if hasLower || hasUpper then some (toAll 20)
  else none

/-- The characters of a pattern in front of its first sign for other characters. -/
def start (pattern : List Char) : List Char := pattern.takeWhile fun c => c != '%' && c != '_'

/-- The pattern asks for nothing but its start, and the index alone decides it.  The character before
`A` is an exception, for a range that ends behind it would end among the letters. -/
def isDecided (pattern : List Char) : Bool :=
  pattern.drop (start pattern).length == ['%'] && (start pattern).getLast? != some '@'

/-- A text begins with other characters, ASCII letter case aside. -/
def beginsWith (start text : List Char) : Bool :=
  (start.map Char.toLower).isPrefixOf (text.map Char.toLower)

/-- The path through the index of a text column to the texts that begin as a pattern does; the index may
be all that has to be read. -/
def ofPattern? (isEnough : Bool) (c : Column) (pattern : List Char) : Option Path :=
  if (c = .owner ∨ c = .title) ∧ start pattern ≠ [] then
    some {
      rank := (if isEnough then 2 else 8) + (if isDecided pattern then 2 else 0) +
        (if c = .title then 0 else 1)
      leadsTo := fun r =>
        match r.cell c with
        | .text s => beginsWith (start pattern) s.toList
        | _ => false }
  else none

end Path

/-- The columns of an expression. -/
def Scalar.columns {α : Type} : Scalar α → List Column
  | .column c => [c]
  | .parameter _ | .number _ => []
  | .length s | .withoutCommas s | .asReal s | .asText s | .lower s | .day s | .group s => s.columns
  | .add s t | .sub s t | .div s t => s.columns ++ t.columns

namespace Condition

mutual

/-- The columns of a condition. -/
def columns : Condition Value → List Column
  | .always => []
  | .compare _ s t | .like _ s t => s.columns ++ t.columns
  | .present s => s.columns
  | .group c => c.columns
  | .all cs | .any cs => columnsOf cs

/-- The columns of several conditions. -/
def columnsOf : List (Condition Value) → List Column
  | [] => []
  | c :: cs => c.columns ++ columnsOf cs

end

mutual

/-- The parts of a conjunction that are no conjunctions themselves. -/
def conjuncts : Condition Value → List (Condition Value)
  | .group c => c.conjuncts
  | .all cs => conjunctsOf cs
  | c => [c]

/-- The parts of several conjunctions. -/
def conjunctsOf : List (Condition Value) → List (Condition Value)
  | [] => []
  | c :: cs => c.conjuncts ++ conjunctsOf cs

end

mutual

/-- The alternatives that are not split further. -/
def alternatives : Condition Value → List (Condition Value)
  | .group c => c.alternatives
  | .any cs => alternativesOf cs
  | c => [c]

/-- The alternatives of several conditions. -/
def alternativesOf : List (Condition Value) → List (Condition Value)
  | [] => []
  | c :: cs => c.alternatives ++ alternativesOf cs

end

/-- The condition bounds a column from below, or from above. -/
def bounds (comparisons : List Comparison) (column : Column) : Condition Value → Bool
  | .compare comparison (.column c) (.parameter _) => c = column && comparisons.contains comparison
  | _ => false

/-- The paths that the bounds among the parts of a conjunction open. -/
def boundPaths (parts : List (Condition Value)) : List Path :=
  [Column.width, .fileSize, .postId].filterMap fun c =>
    Path.ofBounds? c (parts.any (bounds [.gt, .ge] c)) (parts.any (bounds [.lt, .le] c))

/-- The path that a part of a conjunction opens by itself, if an index of texts may be enough. -/
def path? (isEnough : Column → Bool) : Condition Value → Option Path
  | .compare .eq (.column c) (.parameter _) => Path.ofValue? c
  | .like false (.column c) (.parameter (.text pattern)) =>
    Path.ofPattern? (isEnough c) c (untilNull pattern.toList)
  | _ => none

/-- The best of the paths that the parts of a conjunction open. -/
def conjunctionPath (isEnough : Column → Bool) (parts : List (Condition Value)) : Path :=
  .best (parts.filterMap (path? isEnough) ++ boundPaths parts)

/-- The path along those of all alternatives, each of which must have one that is shorter than the
table.  It leads only to rows that satisfy the alternative. -/
def alternativesPath? (today : Calendar.Date) (isEnough : Column → Bool) :
    Condition Value → Option Path
  | .any cs =>
    let paths := (alternativesOf cs).map fun c => (c, conjunctionPath isEnough c.conjuncts)
    if paths.all fun (_, p) => p.rank < Path.table.rank then
      some {
        rank := (paths.map fun (_, p) => p.rank).foldl max 0 + 1
        leadsTo := fun r => paths.any fun (c, p) => p.leadsTo r && c.truth today r = .holds }
    else none
  | _ => none

end Condition

namespace Statement

/-- The index of a column holds all that the statement asks for. -/
def isAnsweredBy (q : Statement) (c : Column) : Bool :=
  match q.output with
  | .count => q.condition.columns.all fun d => d = c || d = .postId
  | .rows .. => false

/-- The path that is followed to the rows that satisfy the condition of a statement. -/
def path (q : Statement) : Path :=
  let parts := q.condition.conjuncts
  .best (parts.filterMap (Condition.path? q.isAnsweredBy) ++ Condition.boundPaths parts ++
    parts.filterMap (Condition.alternativesPath? q.today q.isAnsweredBy))

end Statement

end TagSearch
