import SchemaDiagram.Catalog.Basic

/-!
# Formats of snapshot texts

A **format** describes the JSON texts that stand for the values of one type. One description
serves three purposes: reading (`Format.read`), writing (`Format.toJson`) and publishing
(`Format.schema`). `Format.Val` is the type of the values that a format stands for; the values
of a record are the tuples of the values of its members.
-/

namespace SchemaDiagram.Snapshot

/-- **Member** of a record, apart from its format. -/
structure Member where
  name : String
  /-- What the member means. -/
  doc : String
  /-- The member may be left out and then has the default value of its format. -/
  mayBeAbsent : Bool

/-- **Label** of a record. -/
structure Label where
  name : String
  /-- What the record describes. -/
  doc : String

mutual
/-- **Format** of JSON texts. -/
inductive Format where
  /-- A string. -/
  | text
  /-- A truth value. -/
  | flag
  /-- A whole number below `2 ^ 32`. -/
  | word
  /-- The tag of a relation kind. -/
  | kind
  /-- An index entry: an object whose only member names the case and holds its text. -/
  | entry
  /-- A value or `null`. -/
  | optional (inner : Format)
  /-- An array. -/
  | list (inner : Format)
  /-- An object with the given members, or the array of their values. -/
  | record (label : Label) (members : Members)

/-- The members of a record, in the order of their declaration. -/
inductive Members where
  | nil
  | cons (member : Member) (format : Format) (rest : Members)
end

mutual
/-- **Values** of a format. -/
def Format.Val : Format → Type
  | .text => String
  | .flag => Bool
  | .word => UInt32
  | .kind => RelationKind
  | .entry => IndexEntry
  | .optional inner => Option inner.Val
  | .list inner => List inner.Val
  | .record _ members => members.Val

/-- The tuples of the values of the members. -/
def Members.Val : Members → Type
  | .nil => Unit
  | .cons _ format rest => format.Val × rest.Val
end

/-- The default value of a format: false, no value, no entries. Other formats have none. -/
def Format.default? : (format : Format) → Option format.Val
  | .flag => some false
  | .optional _ => some none
  | .list _ => some []
  | .text | .word | .kind | .entry | .record .. => none

/-- The names of the members. -/
def Members.names : Members → List String
  | .nil => []
  | .cons member _ rest => member.name :: rest.names

/-- The number of members. -/
def Members.length : Members → Nat
  | .nil => 0
  | .cons _ _ rest => rest.length + 1

end SchemaDiagram.Snapshot
