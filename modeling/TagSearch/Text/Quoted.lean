import TagSearch.Text.Printable

/-!
# Quoted text

A text inside a message stands between double quotes.  Quotes and backslashes get a backslash, tab,
carriage return, line feed and the null character have a letter, and every other character without a
glyph of its own is written as its code point in braces.
-/

namespace TagSearch.Text

/-- The code point of a character in lower-case hexadecimal between braces. -/
def codePointEscape (c : Char) : List Char :=
  '\\' :: 'u' :: '\x7b' :: (Nat.toDigits 16 c.toNat ++ ['\x7d'])

/-- A character as quoted text shows it. -/
def quoteChar (c : Char) : List Char :=
  if c == '"' then ['\\', '"']
  else if c == '\\' then ['\\', '\\']
  else if c == '\t' then ['\\', 't']
  else if c == '\r' then ['\\', 'r']
  else if c == '\n' then ['\\', 'n']
  else if c == '\x00' then ['\\', '0']
  else if isPrintable c then [c]
  else codePointEscape c

/-- A text between double quotes. -/
def quoted (text : String) : String :=
  String.ofList ('"' :: (text.toList.flatMap quoteChar ++ ['"']))

end TagSearch.Text
