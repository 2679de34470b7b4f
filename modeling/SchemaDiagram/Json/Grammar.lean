import SchemaDiagram.Json.Scan
import SchemaDiagram.Json.Value

/-!
# The grammar of JSON

Which texts spell a value, whatever reads them. A **span** is given by two texts, of which the
second one is the end of the first one: `value.Spans cs rest` says that `cs` begins with a spelling
of the value and goes on with `rest`. White space may stand wherever the grammar has it, a character
of a string may be escaped in any way, and a number may have a fraction and an exponent.

* `CharSpan`, `StringSpan`: the characters of a string. A half of a surrogate pair that stands alone
  is no character; it may occur in a **loose** string only, where it counts as `U+FFFD`;
* `Literal`: the parts of a number;
* `Value.Spans`: values, over those of their entries (`Values.Spans`) and members
  (`ObjectMembers.Spans`);
* `Value.Spells`: whole texts.
-/

namespace SchemaDiagram.Json

/-! ### Strings -/

/-- The number that four hexadecimal digits write. -/
def hexNumber4? (a b c d : Char) : Option Nat := Text.hexNumber? [a, b, c, d]

/-- **A character of a string:** itself, an escape by letter, an escape by code point or, beyond
`U+FFFF`, a pair of such escapes. -/
inductive CharSpan : Char → List Char → List Char → Prop
  | plain (c : Char) (rest : List Char) (control : ¬c.toNat < 0x20) (quote : c ≠ '"')
      (backslash : c ≠ '\\') : CharSpan c (c :: rest) rest
  | letter (c letter : Char) (rest : List Char) (escape : letterEscape? letter = some c) :
      CharSpan c ('\\' :: letter :: rest) rest
  | code (n : Nat) (a b c d : Char) (rest : List Char) (digits : hexNumber4? a b c d = some n)
      (leading : ¬isLeading n) (trailing : ¬isTrailing n) :
      CharSpan (Char.ofNat n) ('\\' :: 'u' :: a :: b :: c :: d :: rest) rest
  | pair (n m : Nat) (a b c d a' b' c' d' : Char) (rest : List Char)
      (digits : hexNumber4? a b c d = some n) (leading : isLeading n)
      (digits' : hexNumber4? a' b' c' d' = some m) (trailing : isTrailing m) :
      CharSpan (Char.ofNat (0x10000 + 0x400 * (n - 0xd800) + (m - 0xdc00)))
        ('\\' :: 'u' :: a :: b :: c :: d :: '\\' :: 'u' :: a' :: b' :: c' :: d' :: rest) rest

/-- The text goes on with the escape of the second half of a surrogate pair. -/
def BeginsTrailing (cs : List Char) : Prop :=
  ∃ a b c d rest n, cs = '\\' :: 'u' :: a :: b :: c :: d :: rest ∧
    hexNumber4? a b c d = some n ∧ isTrailing n

/-- **A string** from behind its opening quote up to its closing one. -/
inductive StringSpan (loose : Bool) : List Char → List Char → List Char → Prop
  | close (rest : List Char) : StringSpan loose [] ('"' :: rest) rest
  | char {c : Char} {s cs next rest : List Char} (first : CharSpan c cs next)
      (others : StringSpan loose s next rest) : StringSpan loose (c :: s) cs rest
  /-- Half a surrogate pair; two halves that follow each other are a pair. -/
  | half {n : Nat} {a b c d : Char} {s next rest : List Char} (isLoose : loose)
      (digits : hexNumber4? a b c d = some n) (surrogate : isLeading n ∨ isTrailing n)
      (alone : isLeading n → ¬BeginsTrailing next) (others : StringSpan loose s next rest) :
      StringSpan loose ('\uFFFD' :: s) ('\\' :: 'u' :: a :: b :: c :: d :: next) rest

/-- **A text** as a JSON string with both quotes. -/
def TextSpan (loose : Bool) (text : String) (cs rest : List Char) : Prop :=
  ∃ inner, cs = '"' :: inner ∧ StringSpan loose text.toList inner rest

/-! ### Numbers -/

/-- What may introduce an exponent. -/
def exponentMarks : List (List Char) :=
  [['e'], ['E'], ['e', '+'], ['E', '+'], ['e', '-'], ['E', '-']]

/-- **Literal:** a number in its parts. -/
structure Literal where
  negative : Bool
  /-- The digits before the point. -/
  whole : List Char
  /-- The digits behind the point; there is no point without any. -/
  fraction : List Char
  /-- The mark of the exponent and its digits, if there is one. -/
  exponent : Option (List Char × List Char)
  whole_ne_nil : whole ≠ []
  whole_digits : ∀ c ∈ whole, c.isDigit
  no_leading_zero : whole.head? = some '0' → whole = ['0']
  fraction_digits : ∀ c ∈ fraction, c.isDigit
  exponent_parts : ∀ mark digits, exponent = some (mark, digits) →
    mark ∈ exponentMarks ∧ digits ≠ [] ∧ ∀ c ∈ digits, c.isDigit

namespace Literal

/-- The point and what follows it. -/
def fractionText (l : Literal) : List Char := if l.fraction = [] then [] else '.' :: l.fraction

/-- The exponent with its mark. -/
def exponentText (l : Literal) : List Char := l.exponent.elim [] fun part => part.1 ++ part.2

/-- The sign. -/
def signText (l : Literal) : List Char := if l.negative then ['-'] else []

/-- The number as it is written. -/
def text (l : Literal) : List Char :=
  l.signText ++ (l.whole ++ (l.fractionText ++ l.exponentText))

/-- All digits as a whole number, with the sign. -/
def significand (l : Literal) : Int :=
  let n := Nat.ofDigitChars 10 (l.whole ++ l.fraction) 0
  if l.negative then -n else n

/-- The power of ten: the exponent less the number of digits behind the point. -/
def power (l : Literal) : Int :=
  let n : Int := l.exponent.elim 0 fun part =>
    if '-' ∈ part.1 then -(Nat.ofDigitChars 10 part.2 0) else Nat.ofDigitChars 10 part.2 0
  n - l.fraction.length

end Literal

/-! ### Arrays and objects -/

/-- The next part of an array or object after those before it, if there are any: a comma separates
it from them. -/
def Separated (first : Bool) (cs rest : List Char) : Prop :=
  if first then skipSpace cs = rest
  else ∃ after, skipSpace cs = ',' :: after ∧ skipSpace after = rest

/-- The next member of an object up to its value. -/
def MemberSpan (loose first : Bool) (name : String) (cs rest : List Char) : Prop :=
  ∃ key colon after, Separated first cs key ∧ TextSpan loose name key colon ∧
    skipSpace colon = ':' :: after ∧ skipSpace after = rest

mutual
/-- **The spellings of a value.** -/
def Value.Spans : Value → List Char → List Char → Prop
  | .null, cs, rest => cs = 'n' :: 'u' :: 'l' :: 'l' :: rest
  | .bool true, cs, rest => cs = 't' :: 'r' :: 'u' :: 'e' :: rest
  | .bool false, cs, rest => cs = 'f' :: 'a' :: 'l' :: 's' :: 'e' :: rest
  | .number significand exponent, cs, rest => ∃ l : Literal, cs = l.text ++ rest ∧
    l.significand = significand ∧ l.power = exponent
  | .string text, cs, rest => TextSpan true text cs rest
  | .array entries, cs, rest => ∃ inner, cs = '[' :: inner ∧ entries.Spans true inner rest
  | .object members, cs, rest => ∃ inner, cs = '\x7b' :: inner ∧ members.Spans true inner rest

/-- The entries of an array and its end. -/
def Values.Spans (first : Bool) : Values → List Char → List Char → Prop
  | .nil, cs, rest => skipSpace cs = ']' :: rest
  | .cons v vs, cs, rest => ∃ before after, Separated first cs before ∧ v.Spans before after ∧
    vs.Spans false after rest

/-- The members of an object and its end. -/
def ObjectMembers.Spans (first : Bool) : ObjectMembers → List Char → List Char → Prop
  | .nil, cs, rest => skipSpace cs = '\x7d' :: rest
  | .cons name v members, cs, rest => ∃ before after, MemberSpan true first name cs before ∧
    v.Spans before after ∧ members.Spans false after rest
end

/-- **A text spells a value** if it is a spelling of it with nothing but white space around. -/
def Value.Spells (value : Value) (text : String) : Prop :=
  ∃ rest, value.Spans (skipSpace text.toList) rest ∧ skipSpace rest = []

end SchemaDiagram.Json
