import TagSearch.Text.Ranges

/-!
# White space

White space is Unicode's property White_Space: the five ASCII controls from tab to carriage return,
the space, and nineteen characters beyond.  Trimming removes it from both ends of a text, and words
are the maximal runs without it.
-/

namespace TagSearch.Text

/-- The code points with the property White_Space. -/
def whiteRanges : Ranges := [
  (0x9, 0xd), (0x20, 0x20), (0x85, 0x85), (0xa0, 0xa0), (0x1680, 0x1680), (0x2000, 0x200a),
  (0x2028, 0x2029), (0x202f, 0x202f), (0x205f, 0x205f), (0x3000, 0x3000)]

/-- A white-space character. -/
def isWhite (c : Char) : Bool := whiteRanges.contains c.toNat

/-- The white-space characters of ASCII that number readers skip: all but the vertical tab. -/
def isAsciiBlank (c : Char) : Bool :=
  c == ' ' || c == '\t' || c == '\n' || c == '\x0c' || c == '\r'

/-- The text without its last characters as long as they satisfy `p`. -/
def dropEndWhile (p : Char → Bool) (cs : List Char) : List Char :=
  (cs.reverse.dropWhile p).reverse

/-- The text without the characters satisfying `p` at either end. -/
def stripEnds (p : Char → Bool) (cs : List Char) : List Char :=
  dropEndWhile p (cs.dropWhile p)

/-- The text without white space at either end. -/
def trim (cs : List Char) : List Char := stripEnds isWhite cs

/-- Puts a character in front of the first word. -/
def extendFirst (c : Char) : List (List Char) → List (List Char)
  | [] => [[c]]
  | w :: ws => (c :: w) :: ws

/-- The maximal runs without white space, in order. -/
def words : List Char → List (List Char)
  | [] => []
  | [c] => if isWhite c then [] else [[c]]
  | c :: d :: rest =>
    if isWhite c then words (d :: rest)
    else if isWhite d then [c] :: words (d :: rest)
    else extendFirst c (words (d :: rest))

end TagSearch.Text
