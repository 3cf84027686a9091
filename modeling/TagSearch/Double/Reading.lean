import TagSearch.Double.Basic

/-!
# Reading a double

A literal is an optional sign and either a name of an infinity or of not-a-number, in any letter
case, or decimal digits with an optional point and an optional exponent, at least one digit standing
before the exponent.  It denotes the double nearest to its exact value.
-/

namespace TagSearch.Double

open Text

/-- Exponents of ten beyond this distance overflow or vanish whatever the digits. -/
def exponentBound : Nat := 400

/-- The double nearest to `± digits · 10 ^ exponent`. -/
def ofDecimal (negative : Bool) (digits : Nat) (exponent : Int) : Double :=
  if digits = 0 then .finite negative 0
  else
    let size : Int := (Nat.toDigits 10 digits).length
    if exponentBound < size + exponent then .infinite negative
    else if size + exponent < -(exponentBound : Int) then .finite negative 0
    else match exponent with
      | .ofNat e => ofRatio negative (digits * powerOfTen e) 1
      | .negSucc e => ofRatio negative digits (powerOfTen (e + 1))

/-- An optional sign: whether it is a minus, and the rest. -/
def takeSign : List Char → Bool × List Char
  | '-' :: rest => (true, rest)
  | '+' :: rest => (false, rest)
  | cs => (false, cs)

/-- The digits of a literal, its sign aside. -/
structure Literal where
  whole : List Char
  fraction : List Char
  /-- The exponent has a minus sign. -/
  lowers : Bool
  exponent : List Char

/-- The exponent behind a number's digits: nothing, or `e` and a signed run of digits. -/
def readExponent? : List Char → Option (Bool × List Char)
  | [] => some (false, [])
  | c :: rest =>
    if c == 'e' || c == 'E' then
      let (negative, ds) := takeSign rest
      if !ds.isEmpty && ds.all Char.isDigit then some (negative, ds) else none
    else none

/-- Digits with an optional point and exponent. -/
def readLiteral? (cs : List Char) : Option Literal :=
  let whole := cs.takeWhile Char.isDigit
  let afterWhole := cs.dropWhile Char.isDigit
  let (fraction, rest) :=
    match afterWhole with
    | '.' :: more => (more.takeWhile Char.isDigit, more.dropWhile Char.isDigit)
    | _ => ([], afterWhole)
  if whole.isEmpty && fraction.isEmpty then none
  else (readExponent? rest).map fun (lowers, exponent) => ⟨whole, fraction, lowers, exponent⟩

/-- The double nearest to what the digits say. -/
def Literal.toDouble (l : Literal) (negative : Bool) : Double :=
  let e : Int := digitsValue l.exponent
  ofDecimal negative (digitsValue (l.whole ++ l.fraction))
    ((if l.lowers then -e else e) - l.fraction.length)

/-- The double that a literal denotes. -/
def ofText? (cs : List Char) : Option Double :=
  let (negative, body) := takeSign cs
  let name := String.ofList (body.map Char.toLower)
  if name = "inf" || name = "infinity" then some (.infinite negative)
  else if name = "nan" then some .nan
  else (readLiteral? body).map fun l => l.toDouble negative

end TagSearch.Double
