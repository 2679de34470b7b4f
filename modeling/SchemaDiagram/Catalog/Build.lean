import SchemaDiagram.Catalog.Rows
import SchemaDiagram.Text.Order
import SchemaDiagram.Warning

/-!
# Assembling a catalog

`Catalog.build` turns rows, in whatever order they come, into a catalog. Schemas stand in the
order of their first mention, tables and foreign keys in the order of their names, columns in
the order of their ordinals, where rows of equal ordinal keep their order.

Relations are derived in a second step, once all tables are known:

* `links` lists the foreign keys whose target table is registered; the others are left out
  with a warning each;
* `deriveRelations` gives each link a many-to-one relation at its table and a one-to-many
  relation at its target, then each table with several links into its own schema a
  many-to-many relation for every ordered pair of them;
* each table receives the derived relations that start at it, in the order of derivation.
-/

namespace SchemaDiagram

/-! ### Tables and their columns -/

/-- **Table reference:** the names of a schema and of a table in it. -/
structure TableRef where
  schema : String
  table : String
  deriving DecidableEq

/-- The table to which a row belongs. -/
def Row.owner? (row : Row) : Option TableRef :=
  row.tableName?.map fun table => ⟨row.schemaName, table⟩

/-- The schemas that the rows mention as their own, in the order of first mention. -/
def schemaNames (rows : List Row) : List String := (rows.map Row.schemaName).eraseDups

/-- The rows of one table. -/
def rowsOf (rows : List Row) (ref : TableRef) : List Row :=
  rows.filter fun row => decide (row.owner? = some ref)

/-- The tables of a schema, in the order of their names. -/
def tableNames (rows : List Row) (schema : String) : List String :=
  sortedNames ((rows.filter fun row => decide (row.schemaName = schema)).filterMap
    Row.tableName?)

/-- All registered tables, schema by schema. -/
def registered (rows : List Row) : List TableRef :=
  (schemaNames rows).flatMap fun schema => (tableNames rows schema).map (⟨schema, ·⟩)

/-- The columns that the rows of one table describe, in the order of their ordinals; a column
is part of the primary key if any of the rows names it so. -/
def columnsOf (rows : List Row) : List Column :=
  -- The key columns may be given before or after the columns themselves.
  let keyColumns := rows.filterMap Row.primaryKeyColumn?
  ((rows.filterMap Row.column?).mergeSort fun a b => decide (a.ordinal ≤ b.ordinal)).map
    fun row =>
      { name := row.name
        type := row.type
        notNull := row.notNull
        primaryKey := decide (row.name ∈ keyColumns)
        precision := row.precision }

/-! ### Foreign keys -/

/-- **Link:** a foreign key together with the table that holds it and the table it targets. -/
structure Link where
  owner : TableRef
  target : TableRef
  foreignKey : ForeignKey
  deriving DecidableEq

/-- The foreign key that the rows of one key describe: its columns and its index entries, each
in the order of their positions. -/
def foreignKeyOf (rows : List Row) (name : String) : ForeignKey :=
  { name
    columns := ((rows.filterMap Row.foreignKey?).mergeSort
      fun a b => decide (a.position ≤ b.position)).map (·.column)
    index := ((rows.filterMap Row.indexEntry?).mergeSort
      fun a b => decide (a.position ≤ b.position)).map (·.entry) }

/-- The target that the rows of one key give it: the last one named, and the table without a
name in the schema without a name if there are only index entries. -/
def targetOf (rows : List Row) : TableRef :=
  -- A later row of the key overrides the target of an earlier one.
  match (rows.filterMap Row.foreignKey?).getLast? with
  | some row => ⟨row.targetSchema, row.targetTable⟩
  | none => ⟨"", ""⟩

/-- The links that the rows of one table describe, in the order of the names of the keys,
whether their targets are registered or not. -/
def linksOf (rows : List Row) (owner : TableRef) : List Link :=
  (sortedNames (rows.filterMap Row.keyName?)).map fun name =>
    -- Rows of the columns and of the index both name their key.
    let keyRows := rows.filter fun row => decide (row.keyName? = some name)
    { owner, target := targetOf keyRows, foreignKey := foreignKeyOf keyRows name }

/-- The links of all tables: schemas in the order of first mention, then tables by name, then
keys by name. -/
def allLinks (rows : List Row) : List Link :=
  (registered rows).flatMap fun ref => linksOf (rowsOf rows ref) ref

/-- The target of the link is one of the known tables. -/
def Link.isKept (known : List TableRef) (link : Link) : Bool := decide (link.target ∈ known)

/-- **Links:** the foreign keys between registered tables. -/
def links (rows : List Row) : List Link :=
  let known := registered rows
  (allLinks rows).filter (·.isKept known)

/-- One warning for each foreign key that is left out. -/
def buildWarnings (rows : List Row) : List Warning :=
  let known := registered rows
  ((allLinks rows).filter (!·.isKept known)).map fun link =>
    .skippedForeignKey link.foreignKey.name link.target.schema link.target.table

/-! ### Deriving relations -/

/-- The schema by which a relation that starts in `source` names its target in `target`: only
another schema is named. -/
def qualifier (source target : String) : Option String :=
  if source = target then none else some target

/-- The many-to-one relation of a link, at the table that holds the key. -/
def Link.manyToOne (link : Link) : Relation :=
  { kind := .manyToOne
    sourceTable := link.owner.table
    targetSchema := qualifier link.owner.schema link.target.schema
    targetTable := link.target.table
    foreignKey := link.foreignKey
    join := none }

/-- The one-to-many relation of a link, at the table that the key targets. -/
def Link.oneToMany (link : Link) : Relation :=
  { kind := .oneToMany
    sourceTable := link.target.table
    targetSchema := qualifier link.target.schema link.owner.schema
    targetTable := link.owner.table
    foreignKey := link.foreignKey
    join := none }

/-- The many-to-many relation through a join table: from the target of one of its links to the
target of another one. -/
def Link.manyToMany (near far : Link) : Relation :=
  { kind := .manyToMany
    sourceTable := near.target.table
    -- The two ends are in the schema of the join table, so no schema is named.
    targetSchema := none
    targetTable := far.target.table
    foreignKey := near.foreignKey
    join := some { table := near.owner.table, targetForeignKey := far.foreignKey } }

/-- A relation and the table at which it starts. -/
structure Derived where
  source : TableRef
  relation : Relation
  deriving DecidableEq

/-- The two relations that every link gives. -/
def Link.direct (link : Link) : List Derived :=
  [⟨link.owner, link.manyToOne⟩, ⟨link.target, link.oneToMany⟩]

/-- All ordered pairs of entries at different places of a list. -/
def orderedPairs {α : Type} (items : List α) : List (α × α) :=
  -- An entry makes a pair with every other place, also with an entry that equals it.
  items.zipIdx.flatMap fun (a, i) =>
    items.zipIdx.filterMap fun (b, j) => if i = j then none else some (a, b)

/-- The many-to-many relations that a join table gives: one for each ordered pair of its links
into its own schema. -/
def joinRelations (all : List Link) (joinTable : TableRef) : List Derived :=
  let outgoing := all.filter fun link =>
    decide (link.owner = joinTable ∧ link.target.schema = joinTable.schema)
  (orderedPairs outgoing).map fun (near, far) => ⟨near.target, near.manyToMany far⟩

/-- **Derived relations** of a list of links: the direct ones link by link, then those through
join tables, join table by join table. -/
def deriveRelations (all : List Link) : List Derived :=
  -- The relations through join tables come behind all direct ones.
  all.flatMap Link.direct ++ (all.map Link.owner).eraseDups.flatMap (joinRelations all)

/-! ### The catalog -/

/-- A table with its columns and with those of the derived relations that start at it. -/
def buildTable (rows : List Row) (derived : List Derived) (ref : TableRef) : Table :=
  { name := ref.table
    columns := columnsOf (rowsOf rows ref)
    relations := (derived.filter fun d => decide (d.source = ref)).map (·.relation) }

/-- **Building a catalog** from its rows. -/
def Catalog.build (rows : List Row) : Catalog :=
  let derived := deriveRelations (links rows)
  { schemas := (schemaNames rows).map fun schema =>
      { name := schema
        tables := (tableNames rows schema).map fun table =>
          buildTable rows derived ⟨schema, table⟩ } }

end SchemaDiagram
