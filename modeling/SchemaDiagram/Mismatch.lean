import SchemaDiagram.Decimal.Numeral
import SchemaDiagram.Text.Quoted

/-!
# Mismatches

A text can be well formed and still not have the form that its reader needs. A `Mismatch` says
what was found and what was expected. Its text depends on the notation only in the word for the
absent value and in the numerals of floating-point numbers; a `Wording` fixes these two.
-/

namespace SchemaDiagram

/-- **Finding:** the kind of a value met in a text, with the value where it is short. -/
inductive Finding where
  /-- The absent value. -/
  | nothing
  | bool (value : Bool)
  | integer (value : Int)
  /-- An integer of more than 64 bits. -/
  | wideInteger (value : Int)
  | float (value : Float)
  | text (value : String)
  | sequence
  | map
  /-- A case without a value. -/
  | bareCase

/-- How a notation names its values. -/
structure Wording where
  /-- The word for the absent value. -/
  nothing : String
  numerals : Decimal.NumeralStyle

/-- A finding in words. -/
def Finding.describe (wording : Wording) : Finding → String
  | nothing => wording.nothing
  | bool value => "boolean `" ++ (if value then "true" else "false") ++ "`"
  | integer value => "integer `" ++ toString value ++ "`"
  | wideInteger value =>
    "integer `" ++ toString value ++ "` as " ++ (if value < 0 then "i128" else "u128")
  | float value => "floating point `" ++ wording.numerals.numeral value ++ "`"
  | text value => "string " ++ Text.quote value
  | sequence => "sequence"
  | map => "map"
  | bareCase => "unit variant"

/-- **Mismatch** between a value and the form that its reader needs. -/
inductive Mismatch where
  /-- A value of another kind. -/
  | wrongType (found : Finding) (expected : String)
  /-- A value of the right kind out of its range. -/
  | wrongValue (found : Finding) (expected : String)
  /-- Too few entries. -/
  | wrongLength (length : Nat) (expected : String)
  | missingField (name : String)
  | duplicateField (name : String)
  | unknownField (name : String) (known : List String)
  | unknownCase (name : String) (known : List String)
  /-- A text that is none of the tags of a relation kind. -/
  | unknownRelationKind (tag : String)

/-- A name between backticks. -/
def backticked (name : String) : String := "`" ++ name ++ "`"

/-- The names of which one was expected. -/
def oneOf : List String → String
  | [a, b] => backticked a ++ " or " ++ backticked b
  | [a] => backticked a
  | names => "one of " ++ ", ".intercalate (names.map backticked)

/-- The text of a mismatch. -/
def Mismatch.message (wording : Wording) : Mismatch → String
  | wrongType found expected =>
    "invalid type: " ++ found.describe wording ++ ", expected " ++ expected
  | wrongValue found expected =>
    "invalid value: " ++ found.describe wording ++ ", expected " ++ expected
  | wrongLength length expected =>
    "invalid length " ++ toString length ++ ", expected " ++ expected
  | missingField name => "missing field " ++ backticked name
  | duplicateField name => "duplicate field " ++ backticked name
  | unknownField name known =>
    "unknown field " ++ backticked name ++ ", expected " ++ oneOf known
  | unknownCase name known =>
    "unknown variant " ++ backticked name ++ ", expected " ++ oneOf known
  | unknownRelationKind tag => "Unknown relation type: " ++ tag

end SchemaDiagram
