import SchemaDiagram.Catalog.Basic
import SchemaDiagram.Text.Order

/-!
# Relation lines

A relation is drawn as one line for each referencing column of its foreign key. A line names
the source column, the symbol of the relation kind and the target column; all lines of a key
end at the same target column, the first plain column of the referenced index. A key without
one cannot be drawn.

`RenderedKeys` is the set of the names of the foreign keys drawn so far. It only records: a
key that occurs twice is drawn twice.
-/

namespace SchemaDiagram

/-- **Diagram error:** why a diagram cannot be drawn. -/
inductive DiagramError where
  /-- The index to which a foreign key refers has no plain column. -/
  | missingJoinColumn (foreignKey : String)
  /-- The type of a column asks for a precision that the column does not have. -/
  | missingPrecision (table column : String)
  deriving DecidableEq

/-- The text of a diagram error. -/
def DiagramError.message : DiagramError → String
  | missingJoinColumn foreignKey =>
    "foreign key " ++ foreignKey ++ " has no column in its referenced index"
  | missingPrecision table column =>
    "column " ++ table ++ "." ++ column ++ " has a precision type but no precision"

/-- The symbol between the two columns of a relation line. -/
def RelationKind.symbol : RelationKind → String
  | manyToOne => ">"
  | oneToMany => "<"
  | manyToMany => "<>"

/-- The line of one referencing column. -/
def Relation.line (relation : Relation) (target column : String) : String :=
  relation.sourceTable ++ "." ++ column ++ " " ++ relation.kind.symbol ++ " " ++
    relation.targetTable ++ "." ++ target

/-- **Relation lines:** one for each referencing column, in constraint order. -/
def Relation.lines (relation : Relation) : Except DiagramError (List String) :=
  match relation.foreignKey.joinColumn? with
  | some target => .ok (relation.foreignKey.columns.map (relation.line target))
  | none => .error (.missingJoinColumn relation.foreignKey.name)

/-! ### Recording the keys drawn -/

/-- **Rendered keys:** the names of the foreign keys drawn so far, each once, in the order of
their first drawing. -/
structure RenderedKeys where
  names : List String
  nodup : names.Nodup

namespace RenderedKeys

/-- No key has been drawn. -/
def empty : RenderedKeys := ⟨[], List.nodup_nil⟩

/-- The key of this name has been drawn. -/
def contains (keys : RenderedKeys) (name : String) : Bool := decide (name ∈ keys.names)

/-- Records a key. -/
def insert (keys : RenderedKeys) (name : String) : RenderedKeys :=
  if h : name ∈ keys.names then keys
  else
    ⟨keys.names ++ [name], List.nodup_append.2 ⟨keys.nodup, by simp,
      fun a ha b hb hab => h (by simp_all)⟩⟩

/-- The number of keys drawn. -/
def size (keys : RenderedKeys) : Nat := keys.names.length

/-- No key has been drawn. -/
def isEmpty (keys : RenderedKeys) : Bool := keys.names.isEmpty

/-- The names of the keys drawn, in order. -/
def sorted (keys : RenderedKeys) : List String := sortedNames keys.names

theorem mem_insert {keys : RenderedKeys} {name other : String} :
    other ∈ (keys.insert name).names ↔ other ∈ keys.names ∨ other = name := by
  unfold insert
  split
  · constructor
    · exact Or.inl
    · rintro (h | rfl) <;> assumption
  · simp

end RenderedKeys

end SchemaDiagram
