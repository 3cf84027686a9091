import TagSearch.Text.Numeral

/-!
# Double-precision numbers

Every finite double is a whole multiple of the least positive one, `2 ^ -1074`, so a finite double is
a sign and a natural number of such units, and comparing two doubles is comparing two integers.  An
arithmetic result is the exact quotient of two natural numbers, rounded once: `nearestUnits` keeps
53 significant bits and sends a tie to the even significand.

Zero carries a sign, which only the written form shows; not-a-number compares with nothing.
-/

namespace TagSearch

/-- A double-precision number. -/
inductive Double where
  /-- The result of an operation that has none. -/
  | nan
  /-- An infinity of either sign. -/
  | infinite (negative : Bool)
  /-- A sign and a number of units of `2 ^ -1074`. -/
  | finite (negative : Bool) (units : Nat)
deriving DecidableEq

namespace Double

/-- Two multiplied by itself. -/
def powerOfTwo (n : Nat) : Nat := Nat.pow 2 n

/-- How many units make one. -/
def one : Nat := powerOfTwo 1074

/-- The number of units that first overflows: `2 ^ 1024`. -/
def overflow : Nat := powerOfTwo 2098

/-- The distance, in units, of neighbouring numbers with so many significant bits from `units`
upwards. -/
def spacingOf (bits units : Nat) : Nat := powerOfTwo (units.log2 + 1 - bits)

/-- The distance, in units, of neighbouring doubles from `units` upwards. -/
def spacing (units : Nat) : Nat := spacingOf 53 units

/-- The quotient rounded to a whole number, a tie going to the even neighbour. -/
def roundDiv (num den : Nat) : Nat :=
  let q := num / den
  let twice := 2 * (num % den)
  if den < twice ∨ (twice = den ∧ q % 2 = 1) then q + 1 else q

/-- The quotient of units rounded to so many significant bits, a tie going to the even
significand. -/
def nearestOf (bits num den : Nat) : Nat :=
  let step := spacingOf bits (num / den)
  roundDiv num (den * step) * step

/-- The quotient of units rounded to 53 significant bits. -/
def nearestUnits (num den : Nat) : Nat := nearestOf 53 num den

/-- The double nearest to a quotient of units; beyond the greatest double it is an infinity. -/
def ofUnitsRatio (negative : Bool) (num den : Nat) : Double :=
  let units := nearestUnits num den
  if units < overflow then .finite negative units else .infinite negative

/-- The double nearest to `num / den`. -/
def ofRatio (negative : Bool) (num den : Nat) : Double := ofUnitsRatio negative (num * one) den

/-- The double nearest to an integer. -/
def ofInt (n : Int) : Double := ofRatio (n < 0) n.natAbs 1

/-- Positive zero. -/
def zero : Double := .finite false 0

/-- The double is positive or negative zero. -/
def isZero : Double → Bool
  | .finite _ units => units == 0
  | _ => false

/-- The double is neither an infinity nor not-a-number. -/
def isFinite : Double → Bool
  | .finite _ _ => true
  | _ => false

/-- The number of units with its sign; an infinity lies just beyond the finite doubles, and
not-a-number has none. -/
def signedUnits? : Double → Option Int
  | .nan => none
  | .infinite negative => some (if negative then -(overflow : Int) else overflow)
  | .finite negative units => some (if negative then -(units : Int) else units)

/-- How two doubles compare; not-a-number compares with nothing. -/
def compare? (x y : Double) : Option Ordering :=
  match x.signedUnits?, y.signedUnits? with
  | some a, some b => some (compare a b)
  | _, _ => none

/-- The double without its fraction as a signed 64-bit integer, the nearest one if it lies outside
the range, and zero for not-a-number. -/
def truncInt64 (x : Double) : Int :=
  match x with
  | .nan => 0
  | .infinite negative => if negative then Text.int64Min else Text.int64Max
  | .finite negative units =>
    let whole : Int := (units / one : Nat)
    Text.clampInt64 (if negative then -whole else whole)

/-- The product with a natural number. -/
def scale (x : Double) (n : Nat) : Double :=
  match x with
  | .nan => .nan
  | .infinite negative => if n = 0 then .nan else .infinite negative
  | .finite negative units => ofUnitsRatio negative (units * n) 1

/-- The quotient of two doubles. -/
def div (x y : Double) : Double :=
  match x, y with
  | .finite a m, .finite b n =>
    if n = 0 then (if m = 0 then .nan else .infinite (a != b)) else ofRatio (a != b) m n
  | .finite a _, .infinite b => .finite (a != b) 0
  | .infinite a, .finite b _ => .infinite (a != b)
  | _, _ => .nan

/-- The double with the other sign. -/
def neg : Double → Double
  | .nan => .nan
  | .infinite negative => .infinite (!negative)
  | .finite negative units => .finite (!negative) units

/-- The sum of two doubles. -/
def add (x y : Double) : Double :=
  match x, y with
  | .finite a m, .finite b n =>
    let sum : Int := (if a then -(m : Int) else m) + (if b then -(n : Int) else n)
    if sum = 0 then .finite (a && b) 0 else ofUnitsRatio (sum < 0) sum.natAbs 1
  | .infinite a, .infinite b => if a = b then .infinite a else .nan
  | .infinite a, .finite _ _ => .infinite a
  | .finite _ _, .infinite b => .infinite b
  | _, _ => .nan

/-- The product of two doubles. -/
def mul (x y : Double) : Double :=
  match x, y with
  | .finite a m, .finite b n => ofUnitsRatio (a != b) (m * n) one
  | .infinite a, .infinite b => .infinite (a != b)
  | .infinite a, .finite b n => if n = 0 then .nan else .infinite (a != b)
  | .finite a m, .infinite b => if m = 0 then .nan else .infinite (a != b)
  | _, _ => .nan

end Double

end TagSearch
