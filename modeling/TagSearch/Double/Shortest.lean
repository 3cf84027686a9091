import TagSearch.Double.Basic
import TagSearch.Text.White

/-!
# The fewest digits that read back

A double stands for every real number nearer to it than to its neighbours; the halfway points belong
to it if its significand is even.  `shortest` looks at ever finer decimal grids, of one digit, two
digits, and so on, and takes the first that has a point in this interval, and on it the nearer of the
two points around the double.  Seventeen digits always suffice.
-/

namespace TagSearch

/-- The number `significand · 10 ^ exponent`. -/
structure Decimal where
  /-- The digits as one number. -/
  significand : Nat
  /-- The place of the last digit. -/
  exponent : Int
deriving DecidableEq

namespace Decimal

/-- The digits, first to last. -/
def digits (d : Decimal) : List Char := Nat.toDigits 10 d.significand

/-- The place of the first digit. -/
def magnitude (d : Decimal) : Int := d.exponent + d.digits.length - 1

/-- The digits without trailing zeros; a zero keeps one digit. -/
def trimmedDigits (d : Decimal) : List Char :=
  match Text.dropEndWhile (· == '0') d.digits with
  | [] => ['0']
  | ds => ds

end Decimal

namespace Double

/-- The place of the finest grid that is looked at. -/
def finestPlace : Nat := 343

/-- The units of a double counted in `10 ^ -343`, over the denominator `one`. -/
def scaled (units : Nat) : Nat := units * Text.powerOfTen finestPlace

/-- The decimal place of the first digit of a positive number of units. -/
def firstPlace (units : Nat) : Int :=
  (Nat.toDigits 10 (scaled units / one)).length - 1 - (finestPlace : Int)

/-- Four times the distance from the halfway point below up to the double, in units: the neighbour
below a power of two is nearer. -/
def roomBelow (units : Nat) : Nat :=
  if units = powerOfTwo units.log2 ∧ 52 < units.log2 then spacing units else 2 * spacing units

/-- The halfway points read back as this double. -/
def keepsTies (units : Nat) : Bool := units / spacing units % 2 == 0

/-- The number `num / one`, in `10 ^ -343`, reads back as the double. -/
def readsBack (units num : Nat) : Bool :=
  let low := (4 * units - roomBelow units) * Text.powerOfTen finestPlace
  let high := (4 * units + 2 * spacing units) * Text.powerOfTen finestPlace
  if keepsTies units then low ≤ 4 * num && 4 * num ≤ high else low < 4 * num && 4 * num < high

/-- The nearest point that reads back on the grid whose points have `n` digits. -/
def onGrid? (upOnTie : Nat → Bool) (units n : Nat) : Option Decimal :=
  let place := firstPlace units - (n - 1 : Nat)
  let step := Text.powerOfTen (place + finestPlace).toNat * one
  let below := scaled units / step
  let above := below + 1
  let fromBelow := scaled units - below * step
  let toAbove := above * step - scaled units
  let preferAbove := toAbove < fromBelow || (toAbove == fromBelow && upOnTie below)
  let choice (first second : Nat) : Option Decimal :=
    if readsBack units (first * step) then some ⟨first, place⟩
    else if readsBack units (second * step) then some ⟨second, place⟩
    else none
  if preferAbove then choice above below else choice below above

/-- The shortest decimal that reads back as a positive number of units. -/
def shortest (upOnTie : Nat → Bool) (units : Nat) : Decimal :=
  ((List.range 17).findSome? fun i => onGrid? upOnTie units (i + 1)).getD ⟨0, 0⟩

end Double

end TagSearch
