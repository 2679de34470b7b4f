import SchemaDiagram.Json.Value
import SchemaDiagram.Snapshot.Format

/-!
# Publishing a snapshot format

`publish` gives the JSON Schema (draft 2020-12) of the texts of a record format. Records,
relation kinds and index entries are defined once each under their names and referred to from
where they occur. The members of every schema object stand in a fixed order: keywords that
identify and describe first, the definitions last, all others by name.
-/

namespace SchemaDiagram.Snapshot

open Json (Value)

/-- The members of a JSON object. -/
abbrev Keywords := List (String × Value)

/-- The keywords that come first, in order. -/
def leadingKeywords : List String :=
  ["$id", "$schema", "title", "description", "type", "format", "properties"]

/-- A schema object with its keywords in the fixed order. -/
def ordered (keywords : Keywords) : Value :=
  let leading := leadingKeywords.flatMap fun name => keywords.filter (·.1 = name)
  let others := (keywords.filter fun k =>
    decide (k.1 ∉ leadingKeywords ∧ k.1 ≠ "$defs")).mergeSort fun a b => decide (a.1 ≤ b.1)
  .ofMembers (leading ++ others ++ keywords.filter (·.1 = "$defs"))

/-- The keyword that describes what a schema object stands for. -/
def description (doc : String) : Keywords := [("description", .string doc)]

/-- The keywords that refer to a definition. -/
def reference (name : String) : Keywords := [("$ref", .string ("#/$defs/" ++ name))]

/-- The name under which relation kinds are defined. -/
def kindName : String := "RelationKind"

/-- The name under which index entries are defined. -/
def entryName : String := "IndexEntry"

/-- The keywords with a type that also admits `null`: `null` is added to the one type named,
or is the alternative of a schema object that names none. -/
def nullable (keywords : Keywords) : Keywords :=
  match keywords.lookup "type" with
  | some type =>
    keywords.map fun k =>
      if k.1 = "type" then ("type", .ofList [type, .string "null"]) else k
  | none =>
    [("anyOf", .ofList [ordered keywords, ordered [("type", .string "null")]])]

/-- The keyword for a default value, where a format has one that is written. -/
def defaultKeyword : Format → Keywords
  | .flag => [("default", .bool false)]
  | .list _ => [("default", .ofList [])]
  | _ => []

/-- The keywords of a format where it occurs. -/
def Format.keywords : Format → Keywords
  | .text => [("type", .string "string")]
  | .flag => [("type", .string "boolean")]
  | .word => [("type", .string "integer"), ("format", .string "uint32"), ("minimum", .ofNat 0)]
  | .kind => reference kindName
  | .entry => reference entryName
  | .optional inner => nullable inner.keywords
  | .list inner => [("type", .string "array"), ("items", ordered inner.keywords)]
  | .record label _ => reference label.name

/-- The schema objects of the members, by name. -/
def Members.properties : Members → Keywords
  | .nil => []
  | .cons member format rest =>
    (member.name, ordered (description member.doc ++ format.keywords ++
      if member.mayBeAbsent then defaultKeyword format else [])) :: rest.properties

/-- The names of the members that may not be absent. -/
def Members.requiredNames : Members → List String
  | .nil => []
  | .cons member _ rest =>
    if member.mayBeAbsent then rest.requiredNames else member.name :: rest.requiredNames

/-- A JSON object with its members in the order of their names. -/
def sortedObject (members : Keywords) : Value :=
  .ofMembers (members.mergeSort fun a b => decide (a.1 ≤ b.1))

/-- The keywords of an object with these members. -/
def Members.keywords (members : Members) : Keywords :=
  [("type", .string "object"), ("properties", sortedObject members.properties)] ++
    match members.requiredNames with
    | [] => []
    | names => [("required", .ofList (names.map .string))]

/-- The definition of relation kinds. -/
def kindDefinition : Value :=
  ordered [("type", .string "string"),
    ("enum", .ofList (RelationKind.all.map fun k => .string k.tag))]

/-- The schema object of one case of an index entry. -/
def entryCaseSchema (name doc : String) : Value :=
  ordered (description doc ++ [("type", .string "object"),
    ("properties", .ofMembers [(name, ordered [("type", .string "string")])]),
    ("additionalProperties", .bool false),
    ("required", .ofList [.string name])])

/-- The definition of index entries. -/
def entryDefinition : Value :=
  ordered (description "One entry of the index backing a foreign key" ++
    [("oneOf", .ofList [
      entryCaseSchema "column" "Plain column of the referenced table",
      entryCaseSchema "expression" "Index expression (e.g. `lower(email)`)"])])

mutual
/-- The definitions to which a format refers, with repetitions. -/
def Format.definitions : Format → Keywords
  | .text | .flag | .word => []
  | .kind => [(kindName, kindDefinition)]
  | .entry => [(entryName, entryDefinition)]
  | .optional inner => inner.definitions
  | .list inner => inner.definitions
  | .record label members =>
    (label.name, ordered (description label.doc ++ members.keywords)) :: members.definitions

/-- The definitions to which the formats of some members refer. -/
def Members.definitions : Members → Keywords
  | .nil => []
  | .cons _ format rest => format.definitions ++ rest.definitions
end

/-- **The published schema** of a record format. -/
def publish (label : Label) (members : Members) : Value :=
  ordered ([("$schema", .string "https://json-schema.org/draft/2020-12/schema"),
    ("title", .string label.name)] ++ description label.doc ++ members.keywords ++
    [("$defs", sortedObject (members.definitions.eraseDupsBy fun a b => a.1 == b.1))])

end SchemaDiagram.Snapshot
