import SchemaDiagram.Catalog.Build
import SchemaDiagram.Catalog.NameMap

/-!
# Collecting rows

The catalog builder takes rows one at a time. It drafts every table and every foreign key that a
row mentions, when it is first mentioned, and adds to the drafts what the rows say of them. What
depends on all rows waits until the last one is in: the flags of the primary keys, which tables
there are, and the relations.

* `Builder.add`: what one row does to the drafts;
* `Builder.build`: the catalog that the drafts come to;
* `Builder.warnings`: the keys that are left out, since no row registers their targets.

Columns, index entries and schemas are collected in the order in which they come; the names of
tables and keys are kept in order from the start.
-/

namespace SchemaDiagram

/-! ### Drafts -/

/-- **Key draft:** a foreign key as far as rows have described it, with positions. -/
structure KeyDraft where
  target : TableRef
  columns : List (Int32 × String)
  index : List (Int32 × IndexEntry)

/-- A key that no row has described: its target has no name. -/
def KeyDraft.empty : KeyDraft := ⟨⟨"", ""⟩, [], []⟩

/-- **Table draft:** a table as far as rows have described it, its columns with their ordinals. -/
structure TableDraft where
  columns : List (Int32 × Column)
  /-- The columns of the primary key, once each. -/
  primaryKey : List String
  foreignKeys : NameMap KeyDraft

/-- A table of which only the name is known. -/
def TableDraft.empty : TableDraft := ⟨[], [], .empty⟩

/-- The column of a row, before the primary key is known. -/
def ColumnRow.draft (row : ColumnRow) : Column :=
  { name := row.name
    type := row.type
    notNull := row.notNull
    primaryKey := false
    precision := row.precision }

/-- **Catalog builder:** the drafts by schema and table, and the schemas as they were first
mentioned. -/
structure Builder where
  schemaOrder : List String
  schemas : NameMap (NameMap TableDraft)

namespace Builder

/-- A builder that has seen no row. -/
def empty : Builder := ⟨[], .empty⟩

/-! ### Adding rows -/

/-- Registers a schema unless it is known. -/
def addSchema (builder : Builder) (schema : String) : Builder :=
  -- The order is that of first mention, whatever mentions the schema.
  if (builder.schemas.find? schema).isSome then builder
  else ⟨builder.schemaOrder ++ [schema], builder.schemas.upsert schema .empty id⟩

/-- Changes the draft of a table, after registering its schema and the table itself. -/
def changeTable (builder : Builder) (ref : TableRef) (change : TableDraft → TableDraft) : Builder :=
  let builder := builder.addSchema ref.schema
  { builder with
    schemas := builder.schemas.upsert ref.schema .empty fun tables =>
      tables.upsert ref.table .empty change }

/-- Changes the draft of a foreign key, after registering its table and the key itself. -/
def changeKey (builder : Builder) (owner : TableRef) (name : String)
    (change : KeyDraft → KeyDraft) : Builder :=
  builder.changeTable owner fun draft =>
    { draft with foreignKeys := draft.foreignKeys.upsert name .empty change }

/-- **Adding a row.** -/
def add (builder : Builder) : Row → Builder
  | .schema schema => builder.addSchema schema
  -- A table without columns is registered as well.
  | .table schema table => builder.changeTable ⟨schema, table⟩ id
  | .column row =>
    builder.changeTable ⟨row.schema, row.table⟩ fun draft =>
      { draft with columns := draft.columns ++ [(row.ordinal, row.draft)] }
  | .primaryKey schema table column =>
    builder.changeTable ⟨schema, table⟩ fun draft =>
      -- A repeated column of the primary key counts once.
      { draft with primaryKey := draft.primaryKey.insert column }
  | .foreignKey row =>
    builder.changeKey ⟨row.schema, row.table⟩ row.name fun draft =>
      { draft with
        target := ⟨row.targetSchema, row.targetTable⟩
        columns := draft.columns ++ [(row.position, row.column)] }
  | .indexEntry row =>
    builder.changeKey ⟨row.schema, row.table⟩ row.foreignKey fun draft =>
      { draft with index := draft.index ++ [(row.position, row.entry)] }

/-- The builder after some rows. -/
def ofRows (rows : List Row) : Builder := rows.foldl add empty

end Builder

/-! ### Finishing drafts -/

/-- Entries in the order of their positions, which are then dropped. -/
def inPosition {α : Type} (entries : List (Int32 × α)) : List α :=
  (entries.mergeSort fun a b => decide (a.1 ≤ b.1)).map Prod.snd

/-- The link that a draft of a key comes to, whether its target is registered or not. -/
def KeyDraft.link (draft : KeyDraft) (owner : TableRef) (name : String) : Link :=
  { owner
    target := draft.target
    foreignKey := { name, columns := inPosition draft.columns, index := inPosition draft.index } }

/-- The table that a draft comes to, before it has relations. -/
def TableDraft.table (draft : TableDraft) (name : String) : Table :=
  { name
    columns := (inPosition draft.columns).map fun column =>
      { column with primaryKey := decide (column.name ∈ draft.primaryKey) }
    relations := [] }

/-- **Assembly:** schemas without relations, the links for the relations, and the links that are
left out since their targets are not registered. -/
structure Assembly where
  schemas : List Schema
  links : List Link
  skipped : List Link

namespace Assembly

/-- Sorts a link in by its target. -/
def addLink (known : List TableRef) (assembly : Assembly) (link : Link) : Assembly :=
  if link.isKept known then { assembly with links := assembly.links ++ [link] }
  else { assembly with skipped := assembly.skipped ++ [link] }

/-- Adds a table to a schema, with the links of its keys. -/
def addTable (known : List TableRef) (schema : String) (state : Assembly × List Table)
    (entry : String × TableDraft) : Assembly × List Table :=
  -- The keys come in the order of their names, as the map keeps them.
  let links := entry.2.foreignKeys.entries.map fun key => key.2.link ⟨schema, entry.1⟩ key.1
  (links.foldl (addLink known) state.1, state.2 ++ [entry.2.table entry.1])

/-- Adds a schema with its tables. -/
def addSchema (known : List TableRef) (assembly : Assembly) (name : String)
    (tables : NameMap TableDraft) : Assembly :=
  let (assembly, tables) := tables.entries.foldl (addTable known name) (assembly, [])
  { assembly with schemas := assembly.schemas ++ [⟨name, tables⟩] }

/-- Adds the schemas in this order, and takes each out of the drafts. -/
def drain (known : List TableRef) (assembly : Assembly) :
    List String → NameMap (NameMap TableDraft) → Assembly
  | [], _ => assembly
  | name :: order, drafts =>
    -- Every name of the order has its drafts, so the default is never taken.
    let tables := (drafts.find? name).getD .empty
    drain known (assembly.addSchema known name tables) order (drafts.erase name)

end Assembly

/-! ### Attaching relations -/

/-- Adds a relation to a table. -/
def Table.addRelation (table : Table) (relation : Relation) : Table :=
  { table with relations := table.relations ++ [relation] }

/-- Adds a relation to the first table of this name. -/
def Schema.addRelation (schema : Schema) (table : String) (relation : Relation) : Schema :=
  { schema with
    tables := schema.tables.modify (schema.tables.findIdx fun t => decide (t.name = table))
      fun t => t.addRelation relation }

/-- Adds a relation to the table at which it starts. -/
def Catalog.addRelation (catalog : Catalog) (derived : Derived) : Catalog :=
  { schemas := catalog.schemas.modify
      -- Schemas have different names, so the first one is the only one.
      (catalog.schemas.findIdx fun s => decide (s.name = derived.source.schema))
      fun s => s.addRelation derived.source.table derived.relation }

namespace Builder

/-- The tables that have a draft. -/
def registered (builder : Builder) : List TableRef :=
  builder.schemas.entries.flatMap fun entry => entry.2.names.map fun table => ⟨entry.1, table⟩

/-- The schemas and links that the drafts come to. -/
def assembly (builder : Builder) : Assembly :=
  .drain builder.registered ⟨[], [], []⟩ builder.schemaOrder builder.schemas

/-- **Building the catalog** once all rows are in. -/
def build (builder : Builder) : Catalog :=
  (deriveRelations builder.assembly.links).foldl Catalog.addRelation ⟨builder.assembly.schemas⟩

/-- One warning for each foreign key that is left out. -/
def warnings (builder : Builder) : List Warning :=
  builder.assembly.skipped.map fun link =>
    .skippedForeignKey link.foreignKey.name link.target.schema link.target.table

end Builder

end SchemaDiagram
