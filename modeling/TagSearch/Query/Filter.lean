import TagSearch.Double.Layout
import TagSearch.Query.Comparison
import TagSearch.Query.Field
import TagSearch.Text.Quoted

/-!
# Filters

A filter is a leaf of a query: a field, an operand of the field's type, and how the two must compare.
An operand that cannot be read as its field demands is the only thing that makes a query fail, and
`ValueError` says which demand it was.
-/

namespace TagSearch

/-- An operand. -/
inductive Value where
  | text (text : String)
  | integer (n : Int)
  | real (x : Double)
deriving DecidableEq

/-- The text of an operand. -/
def Value.toText : Value → String
  | .text s => s
  | .integer n => Text.intText n
  | .real x => Layout.plain.write x

/-- How a field's value must stand to the operand. -/
inductive Operator where
  | compare (comparison : Comparison)
  /-- By a pattern in which `*` stands for any run of characters. -/
  | pattern
deriving DecidableEq

/-- A condition on one field. -/
structure Filter where
  field : Field
  value : Value
  /-- How the two must compare. -/
  operator : Operator
  /-- The condition must not hold. -/
  negated : Bool
deriving DecidableEq

/-- The filter for a tag. -/
def Filter.tag (name : String) (negated : Bool) : Filter :=
  ⟨.tag, .text name, .compare .eq, negated⟩

/-- Why an operand cannot be read. -/
inductive ValueError where
  | invalidNumber (field value : String)
  | invalidSize (value : String)
  | unknownSizeUnit (unit : String)
  | invalidDuration (value : String)
  | invalidAspectRatio (value : String)
  /-- Seconds of a date are beyond the last date. -/
  | invalidTimestamp (value : String)
  | invalidDate (value : String)
deriving DecidableEq

/-- What is said about an operand that cannot be read. -/
def ValueError.message : ValueError → String
  | .invalidNumber field value => "invalid number in " ++ field ++ ": " ++ Text.quoted value
  | .invalidSize value => "invalid size format: " ++ Text.quoted value
  | .unknownSizeUnit unit => "unknown size unit: " ++ Text.quoted unit
  | .invalidDuration value => "invalid duration: " ++ Text.quoted value
  | .invalidAspectRatio value => "invalid aspect ratio: " ++ Text.quoted value
  | .invalidTimestamp value => "invalid unix timestamp: " ++ Text.quoted value
  | .invalidDate value => "invalid date format: " ++ Text.quoted value

end TagSearch
