import SchemaDiagram.Json.Value
import SchemaDiagram.Snapshot.Format

/-!
# Writing snapshot texts

`Format.toJson` is the JSON value that stands for a value of a format. Records become objects
whose members stand in the order of their declaration; optional members without a value are
left out, all other members are written even where they have their default.
-/

namespace SchemaDiagram.Snapshot

open Json (Value Values ObjectMembers)

/-- An index entry as an object with one member. -/
def entryToJson : IndexEntry → Value
  | .column name => .ofMembers [("column", .string name)]
  | .expression text => .ofMembers [("expression", .string text)]

/-- The value of an optional format without a value is left out of a record. -/
def Format.isLeftOut : (format : Format) → format.Val → Bool
  | .optional _, none => true
  | _, _ => false

mutual
/-- **The JSON value** that stands for a value of a format. -/
def Format.toJson : (format : Format) → format.Val → Value
  | .text, (s : String) => .string s
  | .flag, (b : Bool) => .bool b
  | .word, (n : UInt32) => .ofNat n.toNat
  | .kind, (k : RelationKind) => .string k.tag
  | .entry, (e : IndexEntry) => entryToJson e
  | .optional inner, (v : Option inner.Val) =>
    match v with
    | some v => inner.toJson v
    | none => .null
  | .list inner, (vs : List inner.Val) => .ofList (vs.map inner.toJson)
  | .record _ members, v => .object (members.toJson v)

/-- The members of an object that stands for a tuple of values. -/
def Members.toJson : (members : Members) → members.Val → ObjectMembers
  | .nil, () => .nil
  | .cons member format rest, (v, vs) =>
    if format.isLeftOut v then rest.toJson vs
    else .cons member.name (format.toJson v) (rest.toJson vs)
end

end SchemaDiagram.Snapshot
