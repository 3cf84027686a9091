import TagSearch.Text.Alphanumeric
import TagSearch.Text.White

/-!
# Tokens of a query

A query is cut into terms, group marks and separators.  Parentheses are the hard part: tags carry
them (`samus_aran_(metroid)`) and so do values, so a parenthesis marks a group only if it is neither
glued to a word nor part of a `name:value` run.

The scan goes through the query once.  Its state is the text of the term being read, the number of
open groups, whether a value is being read, and the characters behind it.
-/

namespace TagSearch

open Text

/-- A piece of a query. -/
inductive Token where
  | groupStart
  | groupEnd
  | separator
  /-- A tag or a `name:value` filter. -/
  | term (text : String)
deriving DecidableEq

/-- The state of a scan. -/
structure Scan where
  /-- The text read since the last token. -/
  pending : List Char
  depth : Nat
  /-- A value is being read; only a space outside groups ends it. -/
  inValue : Bool
  /-- The characters read so far, last first. -/
  past : List Char

namespace Scan

/-- The state at the start of a query. -/
def start : Scan := ⟨[], 0, false, []⟩

/-- How far back a parenthesis looks for the name of a field. -/
def lookBack : Nat := 50

/-- In a reversed text, a colon stands directly behind a word character. -/
def hasFieldMark : List Char → Bool
  | c :: d :: rest => (c == ':' && isWordChar d) || hasFieldMark (d :: rest)
  | _ => false

/-- The reversed text starts with an unbroken `word:value` run, as far as one looks back. -/
def endsInField (reversed : List Char) : Bool :=
  hasFieldMark ((reversed.take lookBack).takeWhile fun c => !isWhite c)

/-- More parentheses open in the text than close. -/
def hasOpenParenthesis (cs : List Char) : Bool := cs.count ')' < cs.count '('

/-- Some word character stands last. -/
def endsInWord (cs : List Char) : Bool := cs.getLast?.any isWordChar

/-- Ends the term being read, if there is one. -/
def flush (s : Scan) : List Token × Scan :=
  let term := trim s.pending
  if term.isEmpty then ([], s) else ([.term (String.ofList term)], { s with pending := [] })

/-- Takes a character into the term being read. -/
def append (s : Scan) (c : Char) : Scan := { s with pending := s.pending ++ [c] }

/-- Ends the term being read and gives a token behind it. -/
def flushThen (s : Scan) (token : Token) : List Token × Scan :=
  let (before, s) := s.flush
  (before ++ [token], s)

/-- An opening parenthesis: part of a term, or the start of a group.  Inside a group the term being
read goes on behind it. -/
def openParenthesis (s : Scan) : List Token × Scan :=
  if s.inValue || endsInField s.past || endsInWord s.pending then ([], s.append '(')
  else
    let (tokens, s) := if s.depth = 0 then s.flushThen .groupStart else ([.groupStart], s)
    (tokens, { s with depth := s.depth + 1 })

/-- A closing parenthesis: part of a term, or the end of a group. -/
def closeParenthesis (s : Scan) (rest : List Char) : List Token × Scan :=
  if s.inValue || endsInField (')' :: s.past) || rest.head?.any isWordChar || s.depth = 0
      || hasOpenParenthesis s.pending then
    ([], s.append ')')
  else
    let (tokens, s) := s.flushThen .groupEnd
    (tokens, { s with depth := s.depth - 1 })

/-- The characters that end a term inside a group even across a space. -/
def isStructural (c : Char) : Bool :=
  c == '|' || c == '~' || c == ',' || c == ')' || c == '('

/-- A space: it ends a term outside groups, and inside a group only in front of a structural
character. -/
def space (s : Scan) (rest : List Char) : List Token × Scan :=
  if s.depth = 0 then s.flush
  else if (trim s.pending).isEmpty then ([], s)
  else if (rest.dropWhile (· == ' ')).head?.any isStructural then s.flush
  else ([], s.append ' ')

/-- Reads one character; `rest` stands behind it. -/
def read (s : Scan) (c : Char) (rest : List Char) : List Token × Scan :=
  if c == ':' && s.pending.getLast?.any isAlphanumeric then
    ([], { s.append ':' with inValue := true })
  else
    let s := if c == ' ' && s.depth == 0 then { s with inValue := false } else s
    if c == '(' then s.openParenthesis
    else if c == ')' then s.closeParenthesis rest
    else if c == '|' then s.flushThen .separator
    else if (c == '~' || c == ',') && 0 < s.depth then s.flushThen .separator
    else if c == ' ' then s.space rest
    else ([], s.append c)

/-- Reads one character and remembers it. -/
def step (s : Scan) (c : Char) (rest : List Char) : List Token × Scan :=
  let (tokens, s') := s.read c rest
  (tokens, { s' with past := c :: s.past })

/-- The tokens of the rest of a query. -/
def tokens (s : Scan) : List Char → List Token
  | [] => s.flush.1
  | c :: rest =>
    let (found, s) := s.step c rest
    found ++ s.tokens rest

end Scan

/-- The tokens of a query. -/
def Token.ofQuery (query : String) : List Token := Scan.start.tokens query.toList

end TagSearch
