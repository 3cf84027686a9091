import TagSearch.Predicate.Condition
import TagSearch.Query.SortKey
import TagSearch.Text.White

/-!
# The order of rows

Rows are sorted by a list of keys, all in one direction; the first key on which two rows differ
decides.  Names that no key has are skipped, and if nothing remains rows are sorted by timestamp.
-/

namespace TagSearch

/-- The expression by which a key sorts; the random key has none. -/
def SortKey.expression? : SortKey → Option (Scalar Value)
  | .timestamp => some (.column .timestamp)
  | .score => some (.column .score)
  | .postId => some (.column .postId)
  | .owner => some (.column .owner)
  | .width => some (.column .width)
  | .height => some (.column .height)
  | .rating => some (.column .rating)
  | .fileSize => some (.column .fileSize)
  | .duration => some (.column .duration)
  | .createdAt => some (.column .createdAt)
  | .downloadedAt => some (.column .downloadedAt)
  | .tagCount => some .tagCount
  | .random => none

/-- The expression of a key in SQL. -/
def SortKey.sql (key : SortKey) : String :=
  match key.expression? with
  | some e => e.sql
  | none => "RANDOM()"

/-- The keys that a list of names with commas between them stands for. -/
def sortKeys (names : String) : List SortKey :=
  match (names.toList.splitOn ',').filterMap fun name =>
      SortKey.ofName? (String.ofList (Text.trim name)) with
  | [] => [.timestamp]
  | keys => keys

/-- A key and a direction in SQL; a random order has no direction. -/
def orderTerm (direction : Direction) (key : SortKey) : String :=
  match key.expression? with
  | some e => e.sql ++ " " ++ direction.sql
  | none => key.sql

/-- The order that a list of names asks for in SQL. -/
def orderClause (names : String) (direction : Direction) : String :=
  ", ".intercalate ((sortKeys names).map (orderTerm direction))

/-- How a key orders two rows.  No key asks for the day of a text, so any day will do as today. -/
def SortKey.order (key : SortKey) (a b : Row) : Ordering :=
  match key.expression? with
  | some e => (e.eval .epoch a).order (e.eval .epoch b)
  | none => .eq

/-- How a list of keys orders two rows. -/
def rowOrder (direction : Direction) : List SortKey → Row → Row → Ordering
  | [], _, _ => .eq
  | key :: keys, a, b =>
    let o := key.order a b
    (match direction with | .ascending => o | .descending => o.swap).then
      (rowOrder direction keys a b)

/-- Rows sorted by a list of keys. -/
def sortRows (keys : List SortKey) (direction : Direction) (rows : List Row) : List Row :=
  rows.mergeSort fun a b => (rowOrder direction keys a b).isLE

end TagSearch
