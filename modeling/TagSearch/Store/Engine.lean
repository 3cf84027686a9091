import TagSearch.Store.Basic
import TagSearch.Store.Path

/-!
# What searches rely on

A search is answered by others: a database, which may refuse a statement and which goes its own way to
the rows for each, and a matcher, which may refuse to build the pattern of a tag.
-/

namespace TagSearch

/-- A database, and a matcher of tags. -/
structure Engine where
  /-- The statement gets an answer. -/
  answers : Store → Statement → Bool
  /-- The way that is gone for a statement leads to the row. -/
  leadsTo : Store → Statement → Row → Bool
  /-- The pattern of a tag can be built. -/
  builds : String → Bool

/-- The engine that refuses no statement within the limits and no pattern, and that knows nothing of the
rows. -/
def Engine.usual : Engine where
  answers _ q := decide q.IsWithinLimits
  leadsTo _ q := q.path.leadsTo
  builds _ := true

/-- The rows that a statement is about: those that satisfy its condition and to which the way that is
gone for it leads. -/
def Store.select (s : Store) (db : Engine) (q : Statement) : List Row :=
  s.rows.filter fun r => db.leadsTo s q r && q.condition.truth q.today r = .holds

end TagSearch
