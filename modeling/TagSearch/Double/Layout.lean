import TagSearch.Double.Extended

/-!
# How a double is written

A layout says which of two equally near decimals is taken, which magnitudes are written with all
their places, whether a whole number keeps a point and a zero, and how an exponent looks.  The same
digits serve all layouts.
-/

namespace TagSearch

/-- The conventions of a written form of doubles. -/
structure Layout where
  /-- Which decimal stands for a positive number of units. -/
  decimal : Nat → Decimal
  /-- Places of the first digit from which on a number is written with all its places. -/
  positionalFrom : Option Int
  /-- Places of the first digit below which a number is written with all its places. -/
  positionalBelow : Option Int
  /-- A whole number ends in a point and a zero. -/
  keepsPoint : Bool
  /-- A single digit in front of an exponent is followed by a point and a zero. -/
  pointBeforeExponent : Bool
  /-- A positive exponent has a plus sign. -/
  plusInExponent : Bool
  /-- The least number of digits of an exponent. -/
  exponentWidth : Nat
  /-- The text of not-a-number. -/
  nanText : String
  /-- The text of an infinity by sign. -/
  infinityText : Bool → String

namespace Layout

/-- Whether a first digit at this place is written with all its places. -/
def isPositional (l : Layout) (place : Int) : Bool :=
  (match l.positionalFrom with | some p => p ≤ place | none => true) &&
  (match l.positionalBelow with | some p => place < p | none => true)

/-- All places of a number whose first digit stands at `place`. -/
def positional (l : Layout) (ds : List Char) (place : Int) : List Char :=
  match place with
  | .negSucc k => '0' :: '.' :: (List.replicate k '0' ++ ds)
  | .ofNat k =>
    let whole := ds.take (k + 1) ++ List.replicate (k + 1 - ds.length) '0'
    let fraction := ds.drop (k + 1)
    if fraction.isEmpty then (if l.keepsPoint then whole ++ ['.', '0'] else whole)
    else whole ++ '.' :: fraction

/-- The digits with a point after the first, and the exponent. -/
def exponential (l : Layout) (ds : List Char) (place : Int) : List Char :=
  let mantissa :=
    match ds with
    | [d] => if l.pointBeforeExponent then [d, '.', '0'] else [d]
    | d :: more => d :: '.' :: more
    | [] => []
  let sign := if place < 0 then ['-'] else if l.plusInExponent then ['+'] else []
  mantissa ++ 'e' :: (sign ++ Text.paddedDigits l.exponentWidth place.natAbs)

/-- The text of a double. -/
def write (l : Layout) : Double → String
  | .nan => l.nanText
  | .infinite negative => l.infinityText negative
  | .finite negative units =>
    let sign := if negative then ['-'] else []
    let body :=
      if units = 0 then l.positional ['0'] 0
      else
        let d := l.decimal units
        let place := d.magnitude
        if l.isPositional place then l.positional d.trimmedDigits place
        else l.exponential d.trimmedDigits place
    String.ofList (sign ++ body)

/-- The names of the infinities. -/
def signedInf (negative : Bool) : String := if negative then "-inf" else "inf"

/-- All places, whatever the magnitude, and no point in a whole number. -/
def plain : Layout where
  decimal := Double.shortest fun _ => true
  positionalFrom := none
  positionalBelow := none
  keepsPoint := false
  pointBeforeExponent := false
  plusInExponent := false
  exponentWidth := 1
  nanText := "NaN"
  infinityText := signedInf

/-- All places from `0.0001` up to below `10 ^ 16`, a point in a whole number, else an exponent. -/
def marked : Layout where
  decimal := Double.shortest fun _ => true
  positionalFrom := some (-4)
  positionalBelow := some 16
  keepsPoint := true
  pointBeforeExponent := false
  plusInExponent := false
  exponentWidth := 1
  nanText := "NaN"
  infinityText := signedInf

/-- The form in JSON, which has no infinities: all places from `0.00001` up to below `10 ^ 16`. -/
def json : Layout where
  decimal := Double.shortest fun below => below % 2 == 1
  positionalFrom := some (-5)
  positionalBelow := some 16
  keepsPoint := true
  pointBeforeExponent := false
  plusInExponent := true
  exponentWidth := 1
  nanText := "null"
  infinityText := fun _ => "null"

/-- The form the database gives a number cast to text: fifteen significant digits. -/
def column : Layout where
  decimal := Extended.fifteenDigits
  positionalFrom := some (-4)
  positionalBelow := some 15
  keepsPoint := true
  pointBeforeExponent := true
  plusInExponent := true
  exponentWidth := 2
  nanText := ""
  infinityText := fun negative => if negative then "-Inf" else "Inf"

end Layout

end TagSearch
