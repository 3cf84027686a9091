import TagSearch.Double.Layout
import TagSearch.Json.Literal

/-!
# Documents of JSON

The values of JSON and their compact text.  The members of an object stand in the order in which they
are given.
-/

namespace TagSearch.Json

/-- A value of JSON. -/
inductive Document where
  | null
  | bool (b : Bool)
  | integer (n : Int)
  | real (x : Double)
  | text (s : String)
  | array (elements : List Document)
  | object (members : List (String × Document))

/-- The literal of a text. -/
def literalText (s : String) : String := String.ofList (encodeLiteral s.toList)

namespace Document

/-- The document of a value or of none. -/
def ofOption {α : Type} (f : α → Document) : Option α → Document
  | some a => f a
  | none => .null

mutual

/-- The text of a document. -/
def write : Document → String
  | .null => "null"
  | .bool b => if b then "true" else "false"
  | .integer n => Text.intText n
  | .real x => Layout.json.write x
  | .text s => literalText s
  | .array elements => "[" ++ ",".intercalate (writeElements elements) ++ "]"
  | .object members => "\x7b" ++ ",".intercalate (writeMembers members) ++ "\x7d"

/-- The texts of the elements of an array. -/
def writeElements : List Document → List String
  | [] => []
  | d :: ds => d.write :: writeElements ds

/-- The texts of the members of an object. -/
def writeMembers : List (String × Document) → List String
  | [] => []
  | (key, d) :: ds => (literalText key ++ ":" ++ d.write) :: writeMembers ds

end

end Document

end TagSearch.Json
