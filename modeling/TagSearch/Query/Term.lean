import TagSearch.Query.Operand

/-!
# Terms

A term is a bare tag or `name:value`, possibly with an exclusion mark in front.  A name consists of
ASCII letters, underscores and hyphens; anything else that contains a colon is a tag.

A date and its time of day are written as two terms, and `continuesWithTime` says when the second
belongs to the first.
-/

namespace TagSearch

open Text

/-- The marks that exclude what follows; only the first that fits is taken off. -/
def exclusionMarks : List (List Char) :=
  ["-", "!", "exclude:", "remove:", "negate:", "not:"].map String.toList

/-- Whether a term is excluded, and the term without the mark. -/
def splitExclusion (cs : List Char) : Bool × List Char :=
  match exclusionMarks.findSome? (·.isPrefixOf? cs) with
  | some rest => (true, rest)
  | none => (false, cs)

/-- A character of a field's name. -/
def isNameChar (c : Char) : Bool := c.isAlpha || c == '_' || c == '-'

/-- The name before the first colon and the value behind it, neither of them empty. -/
def splitName? (cs : List Char) : Option (List Char × List Char) :=
  let name := cs.takeWhile (· != ':')
  match cs.dropWhile (· != ':') with
  | _ :: value =>
    if !name.isEmpty && name.all isNameChar && !value.isEmpty then some (name, value) else none
  | [] => none

/-- The filter that a term stands for. -/
def Filter.ofTerm (term : String) : Except ValueError Filter :=
  let (negated, core) := splitExclusion term.toList
  match splitName? core with
  | none => .ok (.tag (String.ofList core) negated)
  | some (name, value) =>
    let field := Field.ofName (String.ofList name)
    (field.readOperand value).map fun (operator, operand) => ⟨field, operand, operator, negated⟩

/-- One or two digits, then one or two groups of a colon and two digits; a glyph may end the text. -/
def looksLikeTimeOfDay (cs : List Char) : Bool :=
  match (dropEndWhile isGlyphChar cs).splitOn ':' with
  | [hour, minute] => isHour hour && isSixtieth minute
  | [hour, minute, second] => isHour hour && isSixtieth minute && isSixtieth second
  | _ => false
where
  /-- One or two digits. -/
  isHour (ds : List Char) : Bool := (ds.length == 1 || ds.length == 2) && ds.all Char.isDigit
  /-- Two digits. -/
  isSixtieth (ds : List Char) : Bool := ds.length == 2 && ds.all Char.isDigit

/-- Some glyph character stands first. -/
def startsWithGlyph (cs : List Char) : Bool := cs.head?.any isGlyphChar

/-- Some glyph character stands last. -/
def endsWithGlyph (cs : List Char) : Bool := cs.getLast?.any isGlyphChar

/-- The second term is the time of day of the date in the first: the date carries no time yet and
ends in no glyph, and the two of them have a glyph at one end at most. -/
def continuesWithTime (term time : String) : Bool :=
  match splitName? (splitExclusion term.toList).2 with
  | none => false
  | some (name, value) =>
    let operand := (splitOperator value).2
    (Field.ofName (String.ofList name)).kind? == some .date
      && !endsWithGlyph value
      && !(startsWithGlyph value && endsWithGlyph time.toList)
      && !operand.contains ':'
      && !operand.all Char.isDigit
      && looksLikeTimeOfDay time.toList

end TagSearch
