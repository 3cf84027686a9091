import TagSearch.Calendar.StoredDay
import TagSearch.Predicate.Like
import TagSearch.Query.Filter
import TagSearch.Table.Row

/-!
# Scalar expressions

The expressions that a predicate compares: columns, parameters, and what the database computes from
them.  An expression has a text, in which a parameter is a question mark, and a list of its
parameters in the order in which the text shows them; and it has a value in every row.

Whatever is computed from nothing is nothing.  Arithmetic is on numbers, a quotient by zero is
nothing, and so is the day of a text that has none.
-/

namespace TagSearch

/-- An expression over the columns of a row, with parameters of some type. -/
inductive Scalar (α : Type) where
  | column (c : Column)
  | parameter (a : α)
  | number (n : Nat)
  /-- The number of characters of a text. -/
  | length (s : Scalar α)
  | withoutCommas (s : Scalar α)
  | add (s t : Scalar α)
  | sub (s t : Scalar α)
  | div (s t : Scalar α)
  | asReal (s : Scalar α)
  | asText (s : Scalar α)
  /-- A text in ASCII lower case. -/
  | lower (s : Scalar α)
  /-- The day of a stored text. -/
  | day (s : Scalar α)
  | group (s : Scalar α)

namespace Scalar

variable {α : Type}

/-- The expression in SQL. -/
def sql : Scalar α → String
  | .column c => c.name
  | .parameter _ => "?"
  | .number n => Text.natText n
  | .length s => "length(" ++ s.sql ++ ")"
  | .withoutCommas s => "replace(" ++ s.sql ++ ", ',', '')"
  | .add s t => s.sql ++ " + " ++ t.sql
  | .sub s t => s.sql ++ " - " ++ t.sql
  | .div s t => s.sql ++ " / " ++ t.sql
  | .asReal s => "CAST(" ++ s.sql ++ " AS REAL)"
  | .asText s => "CAST(" ++ s.sql ++ " AS TEXT)"
  | .lower s => "LOWER(" ++ s.sql ++ ")"
  | .day s => "DATE(" ++ s.sql ++ ")"
  | .group s => "(" ++ s.sql ++ ")"

/-- The parameters in reading order. -/
def parameters : Scalar α → List α
  | .column _ => []
  | .parameter a => [a]
  | .number _ => []
  | .length s | .withoutCommas s | .asReal s | .asText s | .lower s | .day s | .group s =>
    s.parameters
  | .add s t | .sub s t | .div s t => s.parameters ++ t.parameters

/-- The cell of an operand. -/
def ofValue : Value → Cell
  | .text s => .text s
  | .integer n => .integer n
  | .real x => .ofReal x

/-- A cell as a double. -/
def toReal? : Cell → Option Double
  | .integer n => some (.ofInt n)
  | .real x => some x
  | _ => none

/-- The length of a text up to its first null character. -/
def textLength (s : String) : Nat := (untilNull s.toList).length

/-- An operation on two numbers, on integers where both are. -/
def arithmetic (onIntegers : Int → Int → Cell) (onReals : Double → Double → Cell) :
    Cell → Cell → Cell
  | .integer m, .integer n => onIntegers m n
  | a, b =>
    match toReal? a, toReal? b with
    | some x, some y => onReals x y
    | _, _ => .null

/-- The quotient of two cells; a quotient of integers drops its fraction. -/
def quotient : Cell → Cell → Cell :=
  arithmetic (fun m n => if n = 0 then .null else .integer (m.tdiv n))
    (fun x y => if y.isZero then .null else .ofReal (x.div y))

/-- The value of an expression in a row on a given day. -/
def eval (today : Calendar.Date) (row : Row) : Scalar Value → Cell
  | .column c => row.cell c
  | .parameter v => ofValue v
  | .number n => .integer n
  | .length s =>
    match (s.eval today row).toText? with
    | some t => .integer (textLength t)
    | none => .null
  | .withoutCommas s =>
    .ofText? ((s.eval today row).toText?.map fun t => String.ofList (t.toList.filter (· != ',')))
  | .add s t =>
    arithmetic (fun m n => .integer (m + n)) (fun x y => .ofReal (x.add y)) (s.eval today row)
      (t.eval today row)
  | .sub s t =>
    arithmetic (fun m n => .integer (m - n)) (fun x y => .ofReal (x.add y.neg)) (s.eval today row)
      (t.eval today row)
  | .div s t => quotient (s.eval today row) (t.eval today row)
  | .asReal s =>
    match toReal? (s.eval today row) with
    | some x => .ofReal x
    | none => .null
  | .asText s => .ofText? (s.eval today row).toText?
  | .lower s =>
    .ofText? ((s.eval today row).toText?.map fun t => String.ofList (t.toList.map Char.toLower))
  | .day s =>
    .ofText? (((s.eval today row).toText?.bind fun t =>
      Calendar.storedDay? today t.toList).map fun d => String.ofList d.storedText)
  | .group s => s.eval today row

/-- The number of tags, told from the commas of the tag list. -/
def tagCount : Scalar α :=
  .group (.add (.sub (.length (.column .tags)) (.length (.withoutCommas (.column .tags)))) (.number 1))

/-- Width over height. -/
def aspectRatio : Scalar α :=
  .group (.div (.asReal (.column .width)) (.asReal (.column .height)))

end Scalar

end TagSearch
