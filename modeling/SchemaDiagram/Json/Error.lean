import SchemaDiagram.Mismatch

/-!
# Errors of reading JSON

Reading stops at the first problem. There are three classes: the text ends too early, the text
is not JSON, or it is JSON of another form than the reader needs.
-/

namespace SchemaDiagram.Json

/-- What a text was in the middle of when it ended. -/
inductive Unfinished where
  | value
  | string
  | list
  | object
  deriving DecidableEq

/-- Why a text is not JSON. -/
inductive Malformation where
  | expectedValue
  /-- A word that begins like `null`, `true` or `false`. -/
  | expectedWord
  | expectedColon
  | expectedCommaOrBrace
  | expectedCommaOrBracket
  | trailingComma
  | trailingCharacters
  | keyIsNoString
  | invalidNumber
  | numberOutOfRange
  | invalidEscape
  /-- The first half of a surrogate pair without a second escape. -/
  | unfinishedPair
  /-- A half of a surrogate pair where it has no partner. -/
  | loneSurrogate
  | controlCharacter
  deriving DecidableEq

/-- **Error** of reading JSON. -/
inductive Error where
  | ended (unfinished : Unfinished)
  | malformed (malformation : Malformation)
  | mismatch (found : Mismatch)

/-- The text ended in the middle of this. -/
def Unfinished.message : Unfinished → String
  | value => "EOF while parsing a value"
  | string => "EOF while parsing a string"
  | list => "EOF while parsing a list"
  | object => "EOF while parsing an object"

/-- The text of a malformation. -/
def Malformation.message : Malformation → String
  | expectedValue => "expected value"
  | expectedWord => "expected ident"
  | expectedColon => "expected `:`"
  | expectedCommaOrBrace => "expected `,` or `\x7d`"
  | expectedCommaOrBracket => "expected `,` or `]`"
  | trailingComma => "trailing comma"
  | trailingCharacters => "trailing characters"
  | keyIsNoString => "key must be a string"
  | invalidNumber => "invalid number"
  | numberOutOfRange => "number out of range"
  | invalidEscape => "invalid escape"
  | unfinishedPair => "unexpected end of hex escape"
  | loneSurrogate => "lone leading surrogate in hex escape"
  | controlCharacter => "control character (\\u0000-\\u001F) found while parsing a string"

/-- How JSON names its values: the absent value is `null`, and numbers are positional from
`0.00001` up to sixteen digits before the point. -/
def wording : Wording :=
  { nothing := "null"
    numerals :=
      { isPositional := fun exponent => decide (-5 ≤ exponent ∧ exponent ≤ 15)
        exponentDigits := fun n => (if n < 10 then "0" else "") ++ toString n } }

/-- The text of an error. -/
def Error.message : Error → String
  | .ended unfinished => unfinished.message
  | .malformed malformation => malformation.message
  | .mismatch found => found.message wording

end SchemaDiagram.Json
