import SchemaDiagram.Yaml.Event

/-!
# YAML documents

The content of a YAML text that is read as one value: the nodes of its first document, with
every alias replaced by a reference to the node it stands for.

A document may be incomplete: a malformation, or an alias whose anchor does not occur before it,
breaks it off. What precedes the failure can still be read.

* `Document.ofText`: the document of a text;
* `Document.target`: the nodes from the one that an alias stands for.
-/

namespace SchemaDiagram.Yaml

/-! ### Failures -/

/-- **Failure:** why a text cannot be read as one value, whatever its form. -/
inductive Failure where
  | malformed (malformation : Malformation)
  | unknownAnchor
  /-- The text has more than one document. -/
  | severalDocuments
  deriving DecidableEq

/-- The text of a failure. -/
def Failure.message : Failure → String
  | malformed m => m.message
  | unknownAnchor => "unknown anchor"
  | severalDocuments =>
    "deserializing from YAML containing more than one document is not supported"

/-! ### Entries -/

/-- **Entry** of a document: an event whose aliases are numbers of anchors. -/
inductive Entry where
  /-- A document without a node. -/
  | nothing
  | reference (number : Nat)
  | scalar (scalar : Scalar)
  | sequenceStart
  | sequenceEnd
  | mappingStart
  | mappingEnd
  /-- The document is broken off here. -/
  | broken (failure : Failure)

/-- **Document.** -/
structure Document where
  entries : List Entry
  /-- The positions of the anchors in the list of entries, by number; the last one counts. -/
  anchors : List (Nat × Nat)
  /-- Nothing follows the document. -/
  isLast : Bool

/-! ### Anchors -/

/-- The numbers of the names of anchors seen so far, the last ones first, and the positions of
the anchors by number. -/
structure AnchorTable where
  names : List (String × Nat)
  positions : List (Nat × Nat)

/-- Notes an anchor at a position. Its number is the number of different names before it. -/
def AnchorTable.add (table : AnchorTable) (anchor : Option String) (position : Nat) :
    AnchorTable :=
  match anchor with
  | none => table
  | some name =>
    let number := (table.names.map (·.1)).eraseDups.length
    { names := (name, number) :: table.names
      positions := (number, position) :: table.positions }

/-- **Resolving aliases:** the entries of a series of events, from a position on; an alias
without anchor breaks them off. -/
def resolveAliases (failure : Option Malformation) (table : AnchorTable) (position : Nat) :
    List Event → List Entry × AnchorTable
  | [] => (failure.toList.map fun m => .broken (.malformed m), table)
  | event :: events =>
    let after (entry : Entry) (table : AnchorTable) : List Entry × AnchorTable :=
      let (entries, table) := resolveAliases failure table (position + 1) events
      (entry :: entries, table)
    match event with
    | .reference name =>
      match table.names.lookup name with
      | some number => after (.reference number) table
      | none => ([.broken .unknownAnchor], table)
    | .scalar anchor scalar => after (.scalar scalar) (table.add anchor position)
    | .sequenceStart anchor => after .sequenceStart (table.add anchor position)
    | .sequenceEnd => after .sequenceEnd table
    | .mappingStart anchor => after .mappingStart (table.add anchor position)
    | .mappingEnd => after .mappingEnd table

/-! ### Documents -/

/-- The document of the events of a text. -/
def Document.ofEvents (events : Series Event) (isLast : Bool) : Document :=
  let (entries, table) := resolveAliases events.failure ⟨[], []⟩ 0 events.items
  ⟨entries, table.positions, isLast⟩

/-- **Document of a text.** A text without a document has one entry, which is nothing. -/
def Document.ofText (text : List Char) : Document :=
  match events text with
  | (some events, isLast) => .ofEvents events isLast
  | (none, isLast) => ⟨[.nothing], [], isLast⟩

/-- The entries from the one on that an alias stands for. -/
def Document.target (document : Document) (number : Nat) : List Entry :=
  match document.anchors.lookup number with
  | some position => document.entries.drop position
  | none => []

end SchemaDiagram.Yaml
