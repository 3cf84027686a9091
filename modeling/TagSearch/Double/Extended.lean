import TagSearch.Double.Reading
import TagSearch.Double.Shortest

/-!
# Decimals in steps

The database converts between decimals and doubles through extended numbers, which have 64
significant bits.  It multiplies by one power of ten after the other and rounds every product, so a
literal may come out as a neighbour of the nearest double, and a double written with fifteen digits
may differ from the nearest such decimal in the last one.

Extended numbers have no sign here.  They are whole multiples of the least positive one,
`2 ^ -16445`, and unlike the format itself they have no greatest one: whatever lies beyond it is
beyond every double too.
-/

namespace TagSearch

/-- A number that is not negative, in units of `2 ^ -16445`. -/
structure Extended where
  units : Nat
deriving DecidableEq

namespace Extended

open Text Double

/-- How many units make one. -/
def one : Nat := powerOfTwo 16445

/-- The extended number nearest to `num / den`. -/
def ofRatio (num den : Nat) : Extended := ⟨nearestOf 64 (num * one) den⟩

/-- The extended number nearest to `10 ^ n`. -/
def tens (n : Nat) : Extended := ofRatio (powerOfTen n) 1

/-- The extended number nearest to `10 ^ -n`. -/
def tenths (n : Nat) : Extended := ofRatio 1 (powerOfTen n)

/-- The product, rounded. -/
def mul (x y : Extended) : Extended := ⟨nearestOf 64 (x.units * y.units) one⟩

/-- One number is less than another. -/
def isBelow (x y : Extended) : Bool := x.units < y.units

/-- The double nearest to it, with a sign. -/
def toDouble (x : Extended) (negative : Bool) : Double := Double.ofRatio negative x.units one

/-- The exact extended number of a double's units. -/
def ofUnits (units : Nat) : Extended := ⟨units * (one / Double.one)⟩

/-! ## From a literal -/

/-- A significand below this bound takes another digit. -/
def significandBound : Nat := 1844674407370955160

/-- A significand and an exponent with one more digit in front of the point. -/
def keepWhole : Nat × Int → Char → Nat × Int
  | (s, e), c => if s < significandBound then (10 * s + digitValue c, e) else (s, e + 1)

/-- A significand and an exponent with one more digit behind the point. -/
def keepFraction : Nat × Int → Char → Nat × Int
  | (s, e), c => if s < significandBound then (10 * s + digitValue c, e - 1) else (s, e)

/-- The exponent of a literal; from ten thousand on it does not grow. -/
def exponentOf (l : Literal) : Int :=
  let e : Nat :=
    l.exponent.foldl (fun e c => if e < 10000 then 10 * e + digitValue c else 10000) 0
  if l.lowers then -(e : Int) else e

/-- Moves places of a positive exponent into the significand as long as they fit. -/
def raise (s : Nat) : Nat → Nat × Nat
  | 0 => (s, 0)
  | e + 1 => if s < 1844674407370955161 then raise (10 * s) e else (s, e + 1)

/-- Moves final zeros of the significand into a negative exponent. -/
def lower (s : Nat) : Nat → Nat × Nat
  | 0 => (s, 0)
  | e + 1 => if s % 10 = 0 then lower (s / 10) e else (s, e + 1)

/-- Multiplied by a power of ten in steps of a hundred places, of ten and of one. -/
def shift (x : Extended) (power : Nat → Extended) (places : Nat) : Extended :=
  let times (step count : Nat) (x : Extended) : Extended := Nat.repeat (·.mul (power step)) count x
  times 1 (places % 10) (times 10 (places / 10 % 10) (times 100 (places / 100) x))

/-- The extended number that the digits of a literal lead to. -/
def ofLiteral (l : Literal) : Extended :=
  let (s, e) := l.fraction.foldl keepFraction (l.whole.foldl keepWhole (0, 0))
  if s = 0 then ⟨0⟩
  else match e + exponentOf l with
    | .ofNat e =>
      let (s, e) := raise s e
      (ofRatio s 1).shift tens e
    | .negSucc e =>
      let (s, e) := lower s (e + 1)
      (ofRatio s 1).shift tenths e

/-! ## To fifteen digits -/

/-- Multiplies by a factor while a test holds, counting the places; the rounds bound how often. -/
def shiftWhile (test : Extended → Bool) (factor : Extended) (places : Int) :
    Nat → Extended × Int → Extended × Int
  | 0, p => p
  | rounds + 1, (x, e) =>
    if test x then shiftWhile test factor places rounds (x.mul factor, e + places) else (x, e)

/-- A positive number brought between `10 ^ 17` and `10 ^ 19`, and the places it was moved.  Sixteen
rounds of each kind reach from the least double to the greatest. -/
def normalize (x : Extended) : Extended × Int :=
  if x.isBelow (tens 19) then
    shiftWhile (·.isBelow (tens 17)) (tens 1) (-1) 16
      (shiftWhile (·.isBelow (tens 7)) (tens 10) (-10) 16
        (shiftWhile (·.isBelow (tenths 97)) (tens 100) (-100) 16 (x, 0)))
  else
    shiftWhile (!·.isBelow (tens 19)) (tenths 1) 1 16
      (shiftWhile (!·.isBelow (tens 29)) (tenths 10) 10 16
        (shiftWhile (!·.isBelow (tens 119)) (tenths 100) 100 16 (x, 0)))

/-- The units of a double in fifteen digits; the sixteenth digit rounds, a five going up. -/
def fifteenDigits (units : Nat) : Decimal :=
  let (x, places) := (ofUnits units).normalize
  let whole := x.units / one
  let surplus := (Nat.toDigits 10 whole).length - 15
  ⟨(whole / powerOfTen (surplus - 1) + 5) / 10, places + surplus⟩

end Extended

end TagSearch
