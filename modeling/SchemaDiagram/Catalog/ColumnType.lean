import SchemaDiagram.Catalog.Basic

/-!
# Column types of the database

The database names a type twice, by the short name of its type table and by its canonical
name, and packs the precision of a column into a **type modifier**, a signed 32-bit number
that is negative for a column without one.

* `SqlType.resolve`: the type with its alias and the two precision flags;
* `precisionOf`: the precision that a type modifier encodes.
-/

namespace SchemaDiagram

/-! ### Resolving types -/

/-- The aliases of the canonical names that consist of several words, and of `character`. -/
def typeAliases : List (String × String) :=
  [("character varying", "varchar"),
   ("character", "bpchar"),
   ("bit varying", "varbit"),
   ("double precision", "float8"),
   ("timestamp without time zone", "timestamp"),
   ("timestamp with time zone", "timestamptz"),
   ("time without time zone", "time"),
   ("time with time zone", "timetz")]

/-- The short names of the types whose columns carry a precision in their type modifier. -/
def precisionTypes : List String :=
  ["varchar", "bpchar", "bit", "varbit", "numeric", "time", "timetz", "timestamp", "timestamptz",
    "interval"]

/-- The short names of the types for which the server supplies a precision where a column declares
none. -/
def implicitPrecisionTypes : List String :=
  ["time", "timetz", "timestamp", "timestamptz", "interval"]

/-- **Type resolution** from the short and the canonical name of a type. The short name is looked
up among the types with a precision and once more among those with an implicit one. -/
def SqlType.resolve (typeName canonical : String) : SqlType :=
  { name := canonical
    internalName := typeAliases.lookup canonical
    hasPrecision := decide (typeName ∈ precisionTypes)
    implicitPrecision := decide (typeName ∈ implicitPrecisionTypes) }

/-! ### Decoding type modifiers -/

/-- **Precision family:** how a type modifier encodes a precision. -/
inductive PrecisionFamily where
  /-- A length, kept with an offset of four. -/
  | character
  /-- A precision in the high half and a scale in the low half, kept with an offset of four. -/
  | numeric
  /-- The modifier is the length in bits. -/
  | bits
  /-- The modifier is the number of fractional digits of the seconds. -/
  | time
  /-- A field mask in the high half, fractional digits in the low half. -/
  | interval
  deriving DecidableEq

namespace PrecisionFamily

/-- The family of a type, by its short name; most types have none. -/
def ofTypeName? : String → Option PrecisionFamily
  | "varchar" | "bpchar" => some character
  | "numeric" => some numeric
  | "bit" | "varbit" => some bits
  | "time" | "timetz" | "timestamp" | "timestamptz" => some time
  | "interval" => some interval
  | _ => none

/-- The low half of an interval's modifier that stands for no precision. -/
def noIntervalPrecision : Int := 0xffff

/-- The number that a modifier of at least zero encodes; it may be negative, and then there is
no precision. -/
def decode (typmod : Int) : PrecisionFamily → Option Int
  | character => some (typmod - 4)
  | numeric => some ((typmod - 4) / 0x10000 % 0x10000)
  | bits | time => some typmod
  | interval =>
    let low := typmod % 0x10000
    if low = noIntervalPrecision then none else some low

end PrecisionFamily

/-- **Precision of a column** from the short name of its type and its type modifier; there is
none for a negative modifier and for a type without precision. -/
def precisionOf (typeName : String) (typmod : Int32) : Option UInt32 :=
  if typmod < 0 then none
  else do
    let family ← PrecisionFamily.ofTypeName? typeName
    let precision ← family.decode typmod.toInt
    if precision < 0 then none else some (UInt32.ofNat precision.toNat)

end SchemaDiagram
