import TagSearch.Predicate.Size
import TagSearch.Store.Ordering

/-!
# Statements

A search asks the database in statements: how many rows satisfy a condition, or which rows do, in an
order and perhaps only a part of them.  A statement that is within the limits of the database gets an
answer; these are the limits that the database has unless it is told otherwise.
-/

namespace TagSearch

/-- What a statement asks about the rows that satisfy its condition. -/
inductive Output where
  /-- How many there are. -/
  | count
  /-- Which they are, by keys in a direction; at most so many behind so many others, or all of them. -/
  | rows (keys : List SortKey) (direction : Direction) (part : Option (Nat × Nat))

/-- What the database is asked on some day. -/
structure Statement where
  condition : Condition Value
  today : Calendar.Date
  output : Output

namespace Statement

/-- The statement in SQL. -/
def sql (q : Statement) : String :=
  match q.output with
  | .count => "SELECT COUNT(*) AS count FROM post_cache WHERE " ++ q.condition.sql
  | .rows keys direction part =>
    "SELECT * FROM post_cache WHERE " ++ q.condition.sql ++ " ORDER BY " ++
      ", ".intercalate (keys.map (orderTerm direction)) ++
      if part.isSome then " LIMIT ? OFFSET ?" else ""

/-- How many parameters the statement has. -/
def parameterCount (q : Statement) : Nat :=
  q.condition.parameters.length +
    match q.output with
    | .rows _ _ (some _) => 2
    | _ => 0

/-- How many terms the order of the statement has. -/
def orderLength (q : Statement) : Nat :=
  match q.output with
  | .count => 0
  | .rows keys _ _ => keys.length

/-- How many bytes a text may have, that of a statement included. -/
def maxLength : Nat := 1000000000

def maxDepth : Nat := 1000

def maxParameters : Nat := 32766

def maxOrderLength : Nat := 2000

/-- How many bytes a pattern may have. -/
def maxPatternLength : Nat := 50000

/-- How many bytes the text of a value has. -/
def valueLength : Value → Nat
  | .text s => s.utf8ByteSize
  | _ => 0

/-- The statement is within the limits of the database. -/
structure IsWithinLimits (q : Statement) : Prop where
  length : q.sql.utf8ByteSize ≤ maxLength
  depth : q.condition.depth ≤ maxDepth
  parameters : q.parameterCount ≤ maxParameters
  order : q.orderLength ≤ maxOrderLength
  patterns : ∀ pattern ∈ q.condition.patterns, pattern.utf8ByteSize ≤ maxPatternLength
  values : ∀ v ∈ q.condition.parameters, valueLength v ≤ maxLength

theorem isWithinLimits_iff (q : Statement) : q.IsWithinLimits ↔
    q.sql.utf8ByteSize ≤ maxLength ∧ q.condition.depth ≤ maxDepth ∧
      q.parameterCount ≤ maxParameters ∧ q.orderLength ≤ maxOrderLength ∧
      (∀ pattern ∈ q.condition.patterns, pattern.utf8ByteSize ≤ maxPatternLength) ∧
      ∀ v ∈ q.condition.parameters, valueLength v ≤ maxLength :=
  ⟨fun h => ⟨h.length, h.depth, h.parameters, h.order, h.patterns, h.values⟩,
    fun ⟨hlength, hdepth, hparameters, horder, hpatterns, hvalues⟩ =>
      ⟨hlength, hdepth, hparameters, horder, hpatterns, hvalues⟩⟩

instance (q : Statement) : Decidable q.IsWithinLimits := decidable_of_iff' _ q.isWithinLimits_iff

end Statement

end TagSearch
