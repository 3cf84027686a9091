import TagSearch.Json.Literal

/-!
# Arrays of texts in JSON

Writing is compact: literals with commas between them, in brackets.  Reading takes white space
between the lexemes of an array, and nothing behind it.
-/

namespace TagSearch.Json

/-- A lexeme of an array of texts. -/
inductive Lexeme where
  | openBracket
  | closeBracket
  | comma
  /-- A string literal with the text it denotes. -/
  | text (content : List Char)

/-- The white space of JSON. -/
def isJsonBlank (c : Char) : Bool := c == ' ' || c == '\t' || c == '\n' || c == '\r'

mutual

/-- The lexemes of a text. -/
def lexemes : List Char → Option (List Lexeme)
  | [] => some []
  | c :: rest =>
    if isJsonBlank c then lexemes rest
    else if c == '[' then (lexemes rest).map (.openBracket :: ·)
    else if c == ']' then (lexemes rest).map (.closeBracket :: ·)
    else if c == ',' then (lexemes rest).map (.comma :: ·)
    else if c == '"' then literal [] rest
    else none

/-- The lexemes of a text within a literal, given the pieces of its content so far, last first. -/
def literal (pieces : List Piece) : List Char → Option (List Lexeme)
  | [] => none
  | '"' :: rest =>
    match joinPieces pieces.reverse with
    | some content => (lexemes rest).map (.text content :: ·)
    | none => none
  | '\\' :: 'u' :: a :: b :: c :: d :: rest =>
    match codeUnit? a b c d with
    | some n => literal (.unit n :: pieces) rest
    | none => none
  | '\\' :: letter :: rest =>
    match escapeLetters.lookup letter with
    | some c => literal (.char c :: pieces) rest
    | none => none
  | c :: rest => if c.toNat < 32 then none else literal (.char c :: pieces) rest

end

/-- The texts behind the first one, each behind a comma, up to the closing bracket. -/
def moreTexts : List Lexeme → Option (List (List Char))
  | [.closeBracket] => some []
  | .comma :: .text content :: rest => (moreTexts rest).map (content :: ·)
  | _ => none

/-- The texts of an array. -/
def arrayOfLexemes : List Lexeme → Option (List (List Char))
  | [.openBracket, .closeBracket] => some []
  | .openBracket :: .text content :: rest => (moreTexts rest).map (content :: ·)
  | _ => none

/-- The texts that an array denotes. -/
def decodeTexts? (cs : List Char) : Option (List (List Char)) :=
  (lexemes cs).bind arrayOfLexemes

/-- The array of texts. -/
def encodeTexts (texts : List (List Char)) : List Char :=
  '[' :: ([','].intercalate (texts.map encodeLiteral) ++ [']'])

end TagSearch.Json
