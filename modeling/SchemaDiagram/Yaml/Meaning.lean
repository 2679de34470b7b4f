import SchemaDiagram.Mismatch
import SchemaDiagram.Text.Hexadecimal
import SchemaDiagram.Yaml.Document

/-!
# Meaning of scalars

Which value a scalar writes. A plain scalar without a tag is null, a truth value, an integer or
a floating-point number if it has the form of one, else a text; a scalar in quotes or in a block
is a text. A tag of the core schema demands its form, a local tag says nothing, and any other one
makes a text.

* `isNullWord`, `bool?`, `integer?`, `float?`: the forms;
* `Scalar.meaning`: the value of a scalar, or the mismatch with its tag.
-/

namespace SchemaDiagram.Yaml

/-! ### Forms -/

/-- The text writes null. -/
def isNullWord (text : String) : Bool := ["null", "Null", "NULL", "~"].contains text

/-- The truth value that a text writes. -/
def bool? (text : String) : Option Bool :=
  if ["true", "True", "TRUE"].contains text then some true
  else if ["false", "False", "FALSE"].contains text then some false
  else none

/-- The value of a digit in a base of at most sixteen. -/
def digit? (base : Nat) (c : Char) : Option Nat := (Text.hexValue? c).filter (· < base)

/-- The number that digits write in a base; there must be at least one. -/
def digits? (base : Nat) (cs : List Char) : Option Nat :=
  if cs.isEmpty then none
  else cs.foldlM (fun n c => (digit? base c).map (base * n + ·)) 0

/-- The digits start with a zero that is not the only one. -/
def hasLeadingZero (cs : List Char) : Bool :=
  cs.head? = some '0' && 1 < cs.length && cs.all Char.isDigit

/-- The number that a text without sign writes, in base ten without leading zeros, or in the base
that its first two characters name. -/
def magnitude? : List Char → Option Nat
  | '0' :: 'x' :: cs => digits? 16 cs
  | '0' :: 'o' :: cs => digits? 8 cs
  | '0' :: 'b' :: cs => digits? 2 cs
  | cs => if hasLeadingZero cs then none else digits? 10 cs

/-- The number that a text without a minus sign writes. -/
def natural? (text : String) : Option Nat :=
  match text.toList with
  | '+' :: cs => magnitude? cs
  | cs => magnitude? cs

/-- The integer that a text writes. -/
def integer? (text : String) : Option Int :=
  match text.toList with
  | '-' :: cs => (magnitude? cs).map fun n => -(n : Int)
  | _ => (natural? text).map fun n => (n : Int)

/-- The integer has at most this number of bits, with or without a sign. -/
def fits (bits : Nat) (n : Int) : Bool :=
  -- A negative number needs a sign bit.
  if n < 0 then n.natAbs ≤ Nat.pow 2 (bits - 1) else n.natAbs < Nat.pow 2 bits

/-- The finding of an integer: those of more than 128 bits are none. -/
def integerFinding? (text : String) : Option Finding :=
  (integer? text).bind fun n =>
    if fits 64 n then some (.integer n)
    else if fits 128 n then some (.wideInteger n)
    else none

/-- The exponent that the end of a number writes, zero if there is none. -/
def exponent? : List Char → Option Int
  | [] => some 0
  | c :: cs =>
    if c = 'e' ∨ c = 'E' then
      match cs with
      | '-' :: cs => (digits? 10 cs).map fun n => -(n : Int)
      | '+' :: cs => (digits? 10 cs).map fun n => (n : Int)
      | cs => (digits? 10 cs).map fun n => (n : Int)
    else none

/-- The double next to a decimal, unless it is infinite. -/
def finiteFloat? (significand : Nat) (exponent : Int) : Option Float :=
  -- A rough size decides first, so that no great power is computed.
  let size := exponent + (Nat.toDigits 10 significand).length
  if significand = 0 ∨ size < -400 then some 0.0
  else if 400 < size then none
  else
    let x := if exponent < 0 then Float.ofScientific significand true exponent.natAbs
      else Float.ofScientific significand false exponent.natAbs
    if x.isInf then none else some x

/-- The finite number that a text without sign writes: digits with at most one point among or
around them, and an exponent. -/
def decimal? (cs : List Char) : Option Float := do
  let whole := cs.takeWhile Char.isDigit
  let after := cs.dropWhile Char.isDigit
  let (fraction, after) := match after with
    -- The point may be the first or the last character.
    | '.' :: rest => (rest.takeWhile Char.isDigit, rest.dropWhile Char.isDigit)
    | _ => ([], after)
  let significand ← digits? 10 (whole ++ fraction)
  finiteFloat? significand ((← exponent? after) - fraction.length)

/-- The floating-point number that a text writes. -/
def float? (text : String) : Option Float :=
  if [".inf", ".Inf", ".INF", "+.inf", "+.Inf", "+.INF"].contains text then some (1.0 / 0.0)
  else if ["-.inf", "-.Inf", "-.INF"].contains text then some (-1.0 / 0.0)
  else if [".nan", ".NaN", ".NAN"].contains text then some (0.0 / 0.0)
  else match text.toList with
    | '-' :: cs => (decimal? cs).map fun x => -x
    | '+' :: cs => decimal? cs
    | cs => decimal? cs

/-! ### Scalars -/

/-- A tag of the core schema. -/
def coreTag (name : String) : String := "tag:yaml.org,2002:" ++ name

/-- The value of a plain scalar without a tag of the core schema. -/
def plainMeaning (text : String) : Finding :=
  -- Nothing, truth values and numbers come before texts.
  if text = "" ∨ isNullWord text then .nothing
  else match bool? text, integerFinding? text with
    | some value, _ => .bool value
    | none, some finding => finding
    | none, none =>
      -- Digits with a leading zero write no number at all.
      match if hasLeadingZero (text.toList.dropWhile fun c => c = '-' || c = '+') then none
        else float? text with
      | some value => .float value
      | none => .text text

/-- The value of a text whose tag demands a form. -/
def taggedMeaning (text : String) (value? : Option Finding) (form : String) :
    Except Mismatch Finding :=
  match value? with
  | some value => .ok value
  | none => .error (.wrongValue (.text text) form)

/-- **Meaning** of a scalar. -/
def Scalar.meaning (s : Scalar) : Except Mismatch Finding :=
  -- Quoted and block scalars are texts, whatever they say.
  let untagged := if s.style = .plain then plainMeaning s.text else .text s.text
  match s.tag with
  | none => .ok untagged
  | some tag =>
    if tag = coreTag "bool" then taggedMeaning s.text ((bool? s.text).map .bool) "a boolean"
    else if tag = coreTag "int" then taggedMeaning s.text (integerFinding? s.text) "an integer"
    else if tag = coreTag "float" then taggedMeaning s.text ((float? s.text).map .float) "a float"
    else if tag = coreTag "null" then
      taggedMeaning s.text (if isNullWord s.text then some .nothing else none) "null"
    -- A local tag changes nothing, and any other one makes a text.
    else .ok (if tag.startsWith "!" then untagged else .text s.text)

/-- The mismatch of a scalar with what its reader needs. -/
def Scalar.mismatch (s : Scalar) (expected : String) : Mismatch :=
  match s.meaning with
  | .ok found => .wrongType found expected
  | .error mismatch => mismatch

/-- The form of the tag is asked of a scalar: it is plain, or a literal block with that tag. -/
def Scalar.hasForm (s : Scalar) (tag : String) : Bool :=
  s.style = .plain || (s.style = .literal && s.tag = some (coreTag tag))

/-- How messages about YAML name values. -/
def wording : Wording := { nothing := "unit value", numerals := .plain }

end SchemaDiagram.Yaml
