import SchemaDiagram.Decimal.Shortest

/-!
# Numerals

How a floating-point number is written: positionally, always with a point, or in scientific
form with an exponent. A `NumeralStyle` says which exponents are written positionally; the
texts of the special values are the same in all styles.
-/

namespace SchemaDiagram.Decimal

/-- **Numeral style.** The exponent of a number is that of its leading digit. -/
structure NumeralStyle where
  /-- The number with this exponent is written positionally. -/
  isPositional : Int → Bool
  /-- The digits of an exponent in scientific form. -/
  exponentDigits : Nat → String

/-- The digits with a point behind the first `before` of them, with zeros where there are too
few digits on either side. -/
def positional (digits : List Char) (before : Int) : String :=
  if before ≤ 0 then
    "0." ++ String.ofList (List.replicate (-before).toNat '0' ++ digits)
  else
    let n := before.toNat
    let whole := digits.take n ++ List.replicate (n - digits.length) '0'
    let fraction := digits.drop n
    String.ofList whole ++ "." ++
      (if fraction.isEmpty then "0" else String.ofList fraction)

/-- The digits with a point behind the first one, if there are several, and the exponent of the
first one with its sign. -/
def NumeralStyle.scientific (style : NumeralStyle) (digits : List Char) (exponent : Int) :
    String :=
  let fraction := digits.drop 1
  String.ofList (digits.take 1) ++
    (if fraction.isEmpty then "" else "." ++ String.ofList fraction) ++ "e" ++
    (if exponent < 0 then "-" else "+") ++ style.exponentDigits exponent.natAbs

/-- A decimal other than zero in the given style. -/
def NumeralStyle.write (style : NumeralStyle) (value : Decimal) : String :=
  let digits := Nat.toDigits 10 value.digits
  let exponent := value.exponent + digits.length - 1
  if style.isPositional exponent then positional digits (exponent + 1)
  else style.scientific digits exponent

/-- A sign for negative numbers. -/
def sign (negative : Bool) : String := if negative then "-" else ""

/-- **Numeral** of a double. -/
def NumeralStyle.numeral (style : NumeralStyle) (x : Float) : String :=
  match DoubleValue.ofBits x.toBits.toNat with
  | .notANumber => "NaN"
  | .infinite negative => sign negative ++ "inf"
  | .zero negative => sign negative ++ "0.0"
  | .finite negative interval => sign negative ++ style.write interval.shortest

/-- All numbers are written positionally. -/
def NumeralStyle.plain : NumeralStyle := ⟨fun _ => true, fun n => toString n⟩

end SchemaDiagram.Decimal
