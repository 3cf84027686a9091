import TagSearch.Predicate.Scalar
import TagSearch.Predicate.Truth

/-!
# Conditions

Conditions compare expressions and are joined by AND and OR.  Like an expression, a condition has a
text, its parameters in reading order, and a truth value in every row on every day.
-/

namespace TagSearch

/-- A condition on a row, with parameters of some type. -/
inductive Condition (α : Type) where
  | always
  | compare (comparison : Comparison) (s t : Scalar α)
  /-- An expression is like a pattern, or is not. -/
  | like (negated : Bool) (s pattern : Scalar α)
  | present (s : Scalar α)
  | group (c : Condition α)
  | all (cs : List (Condition α))
  | any (cs : List (Condition α))

namespace Condition

variable {α : Type}

/-- The operator of a pattern. -/
def likeSql (negated : Bool) : String := if negated then "NOT LIKE" else "LIKE"

mutual

/-- The condition in SQL. -/
def sql : Condition α → String
  | .always => "1=1"
  | .compare comparison s t => s.sql ++ " " ++ comparison.sql ++ " " ++ t.sql
  | .like negated s pattern => s.sql ++ " " ++ likeSql negated ++ " " ++ pattern.sql
  | .present s => s.sql ++ " IS NOT NULL"
  | .group c => "(" ++ c.sql ++ ")"
  | .all cs => " AND ".intercalate (sqls cs)
  | .any cs => " OR ".intercalate (sqls cs)

/-- Several conditions in SQL. -/
def sqls : List (Condition α) → List String
  | [] => []
  | c :: cs => c.sql :: sqls cs

end

mutual

/-- The parameters in reading order. -/
def parameters : Condition α → List α
  | .always => []
  | .compare _ s t => s.parameters ++ t.parameters
  | .like _ s pattern => s.parameters ++ pattern.parameters
  | .present s => s.parameters
  | .group c => c.parameters
  | .all cs => parametersOf cs
  | .any cs => parametersOf cs

/-- The parameters of several conditions in reading order. -/
def parametersOf : List (Condition α) → List α
  | [] => []
  | c :: cs => c.parameters ++ parametersOf cs

end

/-- Whether two cells compare so; with nothing it is unknown. -/
def compareCells (comparison : Comparison) (a b : Cell) : Truth :=
  match a.compare? b with
  | some o => .ofBool (comparison.holds (some o))
  | none => .unknown

/-- Whether a cell is like a pattern; with nothing it is unknown. -/
def likeCells (a pattern : Cell) : Truth :=
  match a.toText?, pattern.toText? with
  | some text, some pattern => .ofBool (isLike text pattern)
  | _, _ => .unknown

mutual

/-- The truth of a condition in a row on a given day. -/
def truth (today : Calendar.Date) (row : Row) : Condition Value → Truth
  | .always => .holds
  | .compare comparison s t => compareCells comparison (s.eval today row) (t.eval today row)
  | .like negated s pattern =>
    let t := likeCells (s.eval today row) (pattern.eval today row)
    if negated then t.not else t
  | .present s => .ofBool (s.eval today row != .null)
  | .group c => c.truth today row
  | .all cs => truthOfAll today row cs
  | .any cs => truthOfAny today row cs

/-- The truth of a conjunction. -/
def truthOfAll (today : Calendar.Date) (row : Row) : List (Condition Value) → Truth
  | [] => .holds
  | c :: cs => (c.truth today row).and (truthOfAll today row cs)

/-- The truth of alternatives. -/
def truthOfAny (today : Calendar.Date) (row : Row) : List (Condition Value) → Truth
  | [] => .fails
  | c :: cs => (c.truth today row).or (truthOfAny today row cs)

end

/-- The condition that a post has a status. -/
def hasStatus (status : String) : Condition Value :=
  .compare .eq (.column .status) (.parameter (.text status))

/-- The condition and a status. -/
def withStatus (c : Condition Value) (status : String) : Condition Value :=
  .all [.group c, hasStatus status]

end Condition

end TagSearch
