import SchemaDiagram.Json.Value

/-!
# JSON Schema

What a JSON Schema of draft 2020-12 says about a value. A schema is itself a JSON value: a truth
value, or an object whose members are keywords, each of which has to hold on its own. `judge`
evaluates it; a schema accepts a value if the verdict is that it does (`Value.Accepts`).

A verdict is three-valued. There is none if the schema is no schema of this draft or uses a keyword
that is not known here, so that nothing is ever accepted because a keyword has been passed over.
References may lead round in circles, so there is fuel for the depth of the evaluation, and no
verdict without it.

A name that occurs more than once in an object counts each time where the members of a value are
judged.
-/

namespace SchemaDiagram.Json

/-- The entries of an array as a list. -/
def Values.toList : Values → List Value
  | .nil => []
  | .cons v vs => v :: vs.toList

/-- The members of an object as a list. -/
def ObjectMembers.toList : ObjectMembers → List (String × Value)
  | .nil => []
  | .cons name v members => (name, v) :: members.toList

/-! ### Verdicts -/

/-- How many of the verdicts are positive, if there are verdicts at all. -/
def countHolding (verdicts : List (Option Bool)) : Option Nat := do
  return (← verdicts.mapM id).count true

/-- All of them are positive. -/
def allHold (verdicts : List (Option Bool)) : Option Bool := do
  return (← countHolding verdicts) = verdicts.length

/-- At least one is positive. -/
def anyHolds (verdicts : List (Option Bool)) : Option Bool := do
  return 0 < (← countHolding verdicts)

/-- Exactly one is positive. -/
def oneHolds (verdicts : List (Option Bool)) : Option Bool := do
  return (← countHolding verdicts) = 1

/-! ### Numbers and equality -/

/-- A comparison of two numbers in scientific notation. -/
def numberLe (significand exponent significand' exponent' : Int) : Bool :=
  let least := min exponent exponent'
  significand * Nat.pow 10 (exponent - least).toNat ≤
    significand' * Nat.pow 10 (exponent' - least).toNat

/-- The number is whole, however it is written. -/
def isWhole (significand exponent : Int) : Bool :=
  0 ≤ exponent || significand % Nat.pow 10 (-exponent).toNat = 0

mutual
/-- **The same value:** numbers are compared by their value, objects without regard to order. -/
def Value.same : Value → Value → Bool
  | .null, .null => true
  | .bool a, .bool b => a = b
  | .number s e, .number s' e' => numberLe s e s' e' && numberLe s' e' s e
  | .string a, .string b => a = b
  | .array vs, .array ws => vs.same ws
  -- Names are unique, so with as many members it is enough to look from one side.
  | .object ms, .object ns => ms.toList.length = ns.toList.length && ms.sameIn ns
  | _, _ => false

def Values.same : Values → Values → Bool
  | .nil, .nil => true
  | .cons v vs, .cons w ws => v.same w && vs.same ws
  | _, _ => false

/-- Every member has the same value in another object. -/
def ObjectMembers.sameIn : ObjectMembers → ObjectMembers → Bool
  | .nil, _ => true
  | .cons name v members, others =>
    (match others.toList.lookup name with
      | some w => v.same w
      | none => false) && members.sameIn others
end

/-! ### References -/

/-- The member of this name, if the value is an object that has one. -/
def Value.member? (name : String) : Value → Option Value
  | .object members => members.toList.lookup name
  | _ => none

/-- Follows a pointer into a value, where `token` holds the characters of the present token, the
last one first. Escapes are not supported. -/
def followPointer (v : Value) (token : List Char) : List Char → Option Value
  | [] => v.member? (String.ofList token.reverse)
  | c :: cs =>
    if c = '/' then do followPointer (← v.member? (String.ofList token.reverse)) [] cs
    -- Escaped characters are not among the names of a published schema.
    else if c = '~' ∨ c = '%' then none
    else followPointer v (c :: token) cs

/-- The part of a schema to which a reference within the schema leads. -/
def resolveReference (root : Value) (reference : String) : Option Value :=
  match reference.toList with
  | ['#'] => some root
  | '#' :: '/' :: cs => followPointer root [] cs
  | _ => none

/-! ### Keywords -/

/-- The names of types. -/
def typeNames : List String :=
  ["null", "boolean", "object", "array", "number", "string", "integer"]

/-- The names of the types that a value has. -/
def Value.types : Value → List String
  | .null => ["null"]
  | .bool _ => ["boolean"]
  | .number s e => if isWhole s e then ["number", "integer"] else ["number"]
  | .string _ => ["string"]
  | .array _ => ["array"]
  | .object _ => ["object"]

/-- The value has the type of this name. -/
def hasType (v : Value) : Value → Option Bool
  | .string type => if type ∈ typeNames then some (type ∈ v.types) else none
  | _ => none

/-- `type`: a name or several ones. -/
def judgeType (argument v : Value) : Option Bool :=
  match argument with
  | .array types => anyHolds (types.toList.map (hasType v))
  | type => hasType v type

/-- `enum`: a list of values. -/
def judgeEnum (argument v : Value) : Option Bool :=
  match argument with
  | .array values => some (values.toList.any v.same)
  | _ => none

/-- `minimum`: a bound for numbers. -/
def judgeMinimum (argument v : Value) : Option Bool :=
  match argument, v with
  | .number s e, .number s' e' => some (numberLe s e s' e')
  -- The keyword says nothing about a value that is no number.
  | .number _ _, _ => some true
  | _, _ => none

/-- An object has a member of this name. -/
def hasMemberNamed (members : ObjectMembers) : Value → Option Bool
  | .string name => some (name ∈ members.toList.map (·.1))
  | _ => none

/-- `required`: names that every object has. -/
def judgeRequired (argument v : Value) : Option Bool :=
  match argument, v with
  | .array names, .object members => allHold (names.toList.map (hasMemberNamed members))
  | .array _, _ => some true
  | _, _ => none

/-- `properties`: schemas for the members of objects, by name. -/
def judgeProperties (apply : Value → Value → Option Bool) (argument v : Value) : Option Bool :=
  match argument, v with
  | .object schemas, .object members =>
    allHold (members.toList.map fun member =>
      match schemas.toList.lookup member.1 with
      | some schema => apply schema member.2
      -- A member without a schema of its own is left to the other keywords.
      | none => some true)
  | .object _, _ => some true
  | _, _ => none

/-- `additionalProperties`: a schema for all members of objects to which the `properties` beside it
do not apply. -/
def judgeAdditional (apply : Value → Value → Option Bool) (properties? : Option Value)
    (argument v : Value) : Option Bool :=
  -- Only the keyword beside it counts, not one in a part of the schema.
  let judged : List String := match properties? with
    | some (.object schemas) => schemas.toList.map (·.1)
    | _ => []
  match v with
  | .object members =>
    allHold (members.toList.map fun member =>
      if member.1 ∈ judged then some true else apply argument member.2)
  | _ => some true

/-- `items`: a schema for the entries of arrays. -/
def judgeItems (apply : Value → Value → Option Bool) (argument v : Value) : Option Bool :=
  match v with
  | .array entries => allHold (entries.toList.map (apply argument))
  | _ => some true

/-- `anyOf` and `oneOf`: schemas of which some hold. -/
def judgeAlternatives (apply : Value → Value → Option Bool)
    (holds : List (Option Bool) → Option Bool) (argument v : Value) : Option Bool :=
  match argument with
  | .array schemas => holds (schemas.toList.map fun schema => apply schema v)
  | _ => none

/-- `$schema`: the draft of the schema. -/
def judgeDraft (argument : Value) : Option Bool :=
  match argument with
  | .string draft =>
    if draft = "https://json-schema.org/draft/2020-12/schema" then some true else none
  | _ => none

/-- The keywords that say nothing about a value. `format` is one of them in this draft. -/
def annotations : List String := ["title", "description", "default", "format", "$defs"]

/-- **A keyword,** where `apply` evaluates a schema and `keywords` are those of the same schema
object. -/
def judgeKeyword (apply : Value → Value → Option Bool) (root : Value)
    (keywords : List (String × Value)) (keyword : String × Value) (v : Value) : Option Bool :=
  match keyword with
  | ("type", argument) => judgeType argument v
  | ("enum", argument) => judgeEnum argument v
  | ("minimum", argument) => judgeMinimum argument v
  | ("required", argument) => judgeRequired argument v
  | ("properties", argument) => judgeProperties apply argument v
  | ("additionalProperties", argument) =>
    judgeAdditional apply (keywords.lookup "properties") argument v
  | ("items", argument) => judgeItems apply argument v
  | ("anyOf", argument) => judgeAlternatives apply anyHolds argument v
  | ("oneOf", argument) => judgeAlternatives apply oneHolds argument v
  | ("$ref", .string reference) => do apply (← resolveReference root reference) v
  | ("$schema", argument) => judgeDraft argument
  -- Keywords of unknown meaning give no verdict.
  | (name, _) => if name ∈ annotations then some true else none

/-- **The verdict of a schema** on a value. References are resolved within `root`. -/
def judge (root : Value) : Nat → Value → Value → Option Bool
  | 0, _, _ => none
  | _ + 1, .bool verdict, _ => some verdict
  | fuel + 1, .object keywords, v =>
    allHold (keywords.toList.map fun keyword =>
      judgeKeyword (judge root fuel) root keywords.toList keyword v)
  | _ + 1, _, _ => none

/-- **The schema accepts the value,** given enough fuel. -/
def Value.Accepts (schema v : Value) : Prop :=
  ∃ enough, ∀ fuel, enough ≤ fuel → judge schema fuel schema v = some true

end SchemaDiagram.Json
