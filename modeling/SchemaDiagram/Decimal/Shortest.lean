/-!
# Shortest decimals

The decimal that stands for a binary floating-point number: of all decimals that are read back
as the number, those with the fewest digits, and of these the nearest one.

A number is the midpoint of an interval of reals that round to it. `shortest` walks from coarse
to fine decimal grids and stops at the first grid with a point in that interval; it suffices to
look at the two neighbours of the number on each grid. All arithmetic is exact.
-/

namespace SchemaDiagram

/-- **Decimal:** the value `digits * 10 ^ exponent`. -/
structure Decimal where
  digits : Nat
  exponent : Int
  deriving DecidableEq

namespace Decimal

/-- **Rounding interval** of a positive number: the number is `middle / denominator`, and all
reals between the two ends round to it, the ends themselves if `closed`. -/
structure Interval where
  low : Nat
  middle : Nat
  high : Nat
  denominator : Nat
  closed : Bool

/-- The value `digits * 10 ^ exponent` lies in the interval. -/
def Interval.contains (i : Interval) (digits : Nat) (exponent : Int) : Bool :=
  let value := digits * i.denominator * Nat.pow 10 exponent.toNat
  let scale := Nat.pow 10 (-exponent).toNat
  if i.closed then i.low * scale ≤ value && value ≤ i.high * scale
  else i.low * scale < value && value < i.high * scale

/-- The number of digits of a natural number. -/
def digitCount (n : Nat) : Nat := (Nat.toDigits 10 n).length

/-- The point of the grid of this exponent that stands for the interval, if one lies in it: of
the two neighbours of the middle the nearer one, in a tie the even one. -/
def Interval.point (i : Interval) (exponent : Int) : Option Nat :=
  let numerator := i.middle * Nat.pow 10 (-exponent).toNat
  let denominator := i.denominator * Nat.pow 10 exponent.toNat
  let below := numerator / denominator
  let above := below + 1
  let inside := below ≠ 0 && i.contains below exponent
  match inside, i.contains above exponent with
  | true, true =>
    let twice := 2 * (numerator % denominator)
    if twice < denominator || (twice = denominator && below % 2 = 0) then some below
    else some above
  | true, false => some below
  | false, true => some above
  | false, false => none

/-- Searches the grids from this exponent downward. -/
def Interval.search (i : Interval) : Nat → Int → Decimal
  | 0, exponent => ⟨0, exponent⟩
  | fuel + 1, exponent =>
    match i.point exponent with
    | some digits => ⟨digits, exponent⟩
    | none => i.search fuel (exponent - 1)

/-- **The shortest decimal** in an interval. The first grid is coarser than the number; twenty
grids are enough for intervals of a relative width of at least `10 ^ -18`. -/
def Interval.shortest (i : Interval) : Decimal :=
  i.search 20 ((digitCount i.middle : Int) - digitCount i.denominator + 1)

/-! ### Double precision -/

/-- **Value of a double,** taken apart. -/
inductive DoubleValue where
  | notANumber
  | infinite (negative : Bool)
  | zero (negative : Bool)
  /-- A number other than zero, by the interval of its absolute value. -/
  | finite (negative : Bool) (interval : Interval)

/-- The interval of the number `significand * 2 ^ (exponent - 2)`, where the next smaller
number is half as far away as the next greater one if `narrow`. -/
def Interval.ofBinary (significand : Nat) (exponent : Int) (narrow : Bool) : Interval :=
  let unit := Nat.pow 2 exponent.toNat
  { low := (4 * significand - if narrow then 1 else 2) * unit
    middle := 4 * significand * unit
    high := (4 * significand + 2) * unit
    denominator := Nat.pow 2 (-exponent).toNat
    closed := decide (significand % 2 = 0) }

/-- Takes a double apart by its bits: a sign, eleven bits of exponent, 52 bits of fraction. -/
def DoubleValue.ofBits (bits : Nat) : DoubleValue :=
  let negative := decide (bits / Nat.pow 2 63 % 2 = 1)
  let exponent : Nat := bits / Nat.pow 2 52 % Nat.pow 2 11
  let fraction : Nat := bits % Nat.pow 2 52
  if exponent = 2047 then if fraction = 0 then .infinite negative else .notANumber
  else if exponent = 0 then
    if fraction = 0 then .zero negative
    else .finite negative (.ofBinary fraction (-1076) false)
  else
    .finite negative (.ofBinary (Nat.pow 2 52 + fraction) ((exponent : Int) - 1077)
      (decide (fraction = 0 ∧ exponent ≠ 1)))

end Decimal

end SchemaDiagram
