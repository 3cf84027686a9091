import TagSearch.Query.SortKey
import TagSearch.Text.Lowercase
import TagSearch.Text.Numeral
import TagSearch.Text.White

/-!
# Directives

A word `sort:…` or `per-page:…` says how matches are shown, not which posts match.  Directives are
taken out of a query before it is parsed.  A later directive replaces an earlier one, and one that
cannot be read is dropped.
-/

namespace TagSearch

open Text

/-- What the directives of a query ask for. -/
structure Directives where
  /-- A canonical sort key, or several with commas between them; an unknown key stays as it is. -/
  sortBy : Option String
  direction : Option Direction
  /-- How many posts a page has, from 1 to 200. -/
  perPage : Option Nat
deriving DecidableEq

namespace Directives

/-- No directive at all. -/
def none : Directives := ⟨.none, .none, .none⟩

/-- Nothing is asked for. -/
def isEmpty (d : Directives) : Bool := d.sortBy.isNone && d.direction.isNone && d.perPage.isNone

end Directives

/-- The greatest page size. -/
def maxPerPage : Nat := 200

/-- A page size, brought into the range from 1 to 200. -/
def readPerPage? (cs : List Char) : Option Nat :=
  match readInt64 cs with
  | .value n => some (max 1 (min maxPerPage n.toNat))
  | .above => some maxPerPage
  | .below => some 1
  | .malformed => none

/-- The endings that give a direction. -/
def directionEndings : List (List Char × Direction) :=
  [("-desc", .descending), ("_desc", .descending), ("-descending", .descending),
    ("_descending", .descending), ("-asc", .ascending), ("_asc", .ascending),
    ("-ascending", .ascending), ("_ascending", .ascending)].map fun (ending, d) =>
      (ending.toList, d)

/-- What each mark of a direction leaves of a text, in the order in which the marks are tried: `>`
behind the keys or `<` in front of them is ascending, the other two are descending, and an ending may
spell the direction out. -/
def directionMarks (cs : List Char) : List (Option (List Char) × Direction) :=
  [(['>'].isSuffixOf? cs, .ascending), (['>'].isPrefixOf? cs, .descending),
    (['<'].isSuffixOf? cs, .descending), (['<'].isPrefixOf? cs, .ascending)]
  ++ directionEndings.map fun (ending, d) => (ending.isSuffixOf? cs, d)

/-- The keys of a sort directive, and the direction of the first mark that it bears. -/
def splitDirection (cs : List Char) : List Char × Option Direction :=
  match (directionMarks cs).findSome? fun (keys?, d) => keys?.map fun keys => (keys, d) with
  | some (keys, d) => (keys, some d)
  | none => (cs, none)

/-- A name in lower case with hyphens for spaces. -/
def normalName (cs : List Char) : List Char :=
  (lowercase cs).map fun c => if c == ' ' then '-' else c

/-- The canonical name that a key stands for, or `otherwise` if it stands for none. -/
def canonicalName (key otherwise : List Char) : List Char :=
  match SortKey.ofAlias? (String.ofList key) with
  | some k => k.name.toList
  | none => otherwise

/-- A quotation mark. -/
def isQuote (c : Char) : Bool := c == '"' || c == '\x27'

/-- The keys and the direction that the value of a sort directive asks for. -/
def readSort (cs : List Char) : Option String × Option Direction :=
  let (keys, direction) := splitDirection (stripEnds isQuote cs)
  if keys.contains ';' || keys.contains ',' then
    let separator := if keys.contains ';' then ';' else ','
    let names := ((keys.splitOn separator).map trim).map fun part =>
      canonicalName (normalName part) part
    (some (String.ofList ([','].intercalate names)), direction)
  else
    let name := normalName keys
    if name.isEmpty then (none, direction)
    else (some (String.ofList (canonicalName name name)), direction)

/-- What stands behind a mark in lower case, the letter case of the word not counting. -/
def afterMark? (mark word : List Char) : Option (List Char) :=
  if (word.take mark.length).map Char.toLower = mark then some (word.drop mark.length) else none

/-- Takes a word as a directive, or as one of the words kept so far, which are given last first. -/
def takeWord (state : Directives × List (List Char)) (word : List Char) :
    Directives × List (List Char) :=
  let (d, kept) := state
  match afterMark? "sort:".toList word with
  | some value =>
    if value.isEmpty then (d, kept)
    else
      let (sortBy, direction) := readSort value
      ({ d with sortBy := sortBy, direction := direction }, kept)
  | none =>
    match afterMark? "per-page:".toList word with
    | some value =>
      match readPerPage? value with
      | some n => ({ d with perPage := some n }, kept)
      | none => (d, kept)
    | none => (d, word :: kept)

/-- The query without its directives, its words joined by single spaces, and the directives. -/
def splitDirectives (query : String) : String × Directives :=
  let (d, kept) := (words query.toList).foldl takeWord (.none, [])
  (String.ofList ([' '].intercalate kept.reverse), d)

end TagSearch
