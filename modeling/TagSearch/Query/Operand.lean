import TagSearch.Calendar.Moment
import TagSearch.Double.Reading
import TagSearch.Query.Filter

/-!
# Operands

The text behind the colon of a filter may carry a comparison glyph at either end: in front it is read
as it stands, behind it is read from right to left, so `10>` asks for less than ten.  What remains is
a size, a real number, a date, a whole number or a text, as the field demands.
-/

namespace TagSearch

open Text

/-- The characters of comparison glyphs. -/
def isGlyphChar (c : Char) : Bool := c == '<' || c == '>' || c == '='

/-- The glyphs, those of two characters first. -/
def glyphs : List (List Char × Comparison) :=
  [(['<', '='], .le), (['>', '='], .ge), (['<'], .lt), (['>'], .gt), (['='], .eq)]

/-- The comparison of a glyph in front of a non-empty operand, and the operand. -/
def leadingGlyph? (cs : List Char) : Option (Comparison × List Char) :=
  glyphs.findSome? fun (glyph, comparison) =>
    match glyph.isPrefixOf? cs with
    | some operand => if operand.isEmpty then none else some (comparison, operand)
    | none => none

/-- The mirrored comparison of a glyph behind a non-empty operand, and the operand. -/
def trailingGlyph? (cs : List Char) : Option (Comparison × List Char) :=
  glyphs.findSome? fun (glyph, comparison) =>
    match glyph.isSuffixOf? cs with
    | some operand => if operand.isEmpty then none else some (comparison.mirror, operand)
    | none => none

/-- The comparison that a text asks for, and its operand; without a glyph it asks for equality. -/
def splitOperator (cs : List Char) : Comparison × List Char :=
  match leadingGlyph? cs with
  | some found => found
  | none =>
    match trailingGlyph? cs with
    | some found => found
    | none => (.eq, cs)

/-- The bytes of a unit of size; no unit means bytes. -/
def sizeUnit? (unit : List Char) : Option Nat :=
  let lower := String.ofList (unit.map Char.toLower)
  if ["", "b", "byte", "bytes"].contains lower then some 1
  else if ["kb", "kilobyte", "kilobytes"].contains lower then some 1024
  else if ["mb", "megabyte", "megabytes"].contains lower then some (1024 * 1024)
  else if ["gb", "gigabyte", "gigabytes"].contains lower then some (1024 * 1024 * 1024)
  else if ["tb", "terabyte", "terabytes"].contains lower then some (1024 * 1024 * 1024 * 1024)
  else none

/-- A character of the number in front of a unit. -/
def isSizeDigit (c : Char) : Bool := c.isDigit || c == '.'

/-- A size in whole bytes, the fraction dropped: a number with a unit, or any finite number. -/
def readSize (cs : List Char) : Except ValueError Int :=
  let body := trim cs
  let number := body.takeWhile isSizeDigit
  let unit := (body.dropWhile isSizeDigit).dropWhile isWhite
  if number.isEmpty || !unit.all Char.isAlpha then
    match Double.ofText? body with
    | some x => if x.isFinite then .ok x.truncInt64 else .error (.invalidSize (String.ofList cs))
    | none => .error (.invalidSize (String.ofList cs))
  else
    match Double.ofText? number with
    | none => .error (.invalidSize (String.ofList cs))
    | some x =>
      match sizeUnit? unit with
      | none => .error (.unknownSizeUnit (String.ofList unit))
      | some bytes => .ok (x.scale bytes).truncInt64

/-- The moment of a date operand: digits alone are seconds, all else is a written date. -/
def readMoment (cs : List Char) : Except ValueError Calendar.Moment :=
  if !cs.isEmpty && cs.all Char.isDigit then
    match Calendar.Moment.ofSeconds? (digitsValue cs) with
    | some moment => .ok moment
    | none => .error (.invalidTimestamp (String.ofList cs))
  else
    match Calendar.Moment.ofWritten? cs with
    | some moment => .ok moment
    | none => .error (.invalidDate (String.ofList cs))

/-- A real operand, blanks around it not counting. -/
def readReal (refused : String → ValueError) (cs : List Char) : Except ValueError Value :=
  match Double.ofText? (trim cs) with
  | some x => .ok (.real x)
  | none => .error (refused (String.ofList cs))

/-- A whole-number operand, blanks around it not counting. -/
def readWhole (field : Field) (cs : List Char) : Except ValueError Value :=
  match int64? (trim cs) with
  | some n => .ok (.integer n)
  | none => .error (.invalidNumber field.column (String.ofList cs))

/-- A file type, which starts with a point unless the text starts with a parenthesis. -/
def fileTypeText (cs : List Char) : List Char :=
  match cs with
  | '.' :: _ | '(' :: _ => cs
  | _ => '.' :: cs

/-- An operand under the comparison it was written with. -/
def compared (comparison : Comparison) (value : Except ValueError Value) :
    Except ValueError (Operator × Value) :=
  value.map fun v => (.compare comparison, v)

/-- How a field reads the text behind the colon. -/
def Field.readOperand (field : Field) (cs : List Char) : Except ValueError (Operator × Value) :=
  let (comparison, operand) := splitOperator cs
  match field with
  | .fileSize => compared comparison ((readSize operand).map .integer)
  | .duration => compared comparison (readReal .invalidDuration operand)
  | .aspectRatio => compared comparison (readReal .invalidAspectRatio operand)
  | .createdAt | .downloadedAt =>
    compared comparison ((readMoment operand).map fun m => .text (String.ofList m.text))
  | .postId | .score | .width | .height | .tagCount | .matchingTags =>
    if operand.contains '*' then .ok (.pattern, .text (String.ofList operand))
    else compared comparison (readWhole field operand)
  | .fileType => .ok (.compare .eq, .text (String.ofList (fileTypeText cs)))
  | .tag | .owner | .title | .rating | .unknown _ =>
    .ok (.compare .eq, .text (String.ofList cs))

end TagSearch
