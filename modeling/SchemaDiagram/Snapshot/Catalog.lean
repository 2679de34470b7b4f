import SchemaDiagram.Catalog.Validity
import SchemaDiagram.Snapshot.Publish
import SchemaDiagram.Snapshot.Read
import SchemaDiagram.Snapshot.Write

/-!
# Catalog snapshots

The format of every type of the catalog model, and with it the three things that can be done
with snapshots of catalogs: `Catalog.toSnapshot` writes one, `Catalog.ofSnapshot` reads and
validates one, `snapshotSchema` publishes the format.
-/

namespace SchemaDiagram

open Snapshot

/-! ### Formats -/

namespace Snapshot

/-- A member that must be present. -/
def required (name doc : String) : Member := ⟨name, doc, false⟩

/-- A member that may be absent. -/
def mayLack (name doc : String) : Member := ⟨name, doc, true⟩

/-- The members of a column type. -/
def sqlTypeMembers : Members :=
  .cons (required "name" "Canonical type name (e.g. `character varying`)") .text <|
  .cons (mayLack "internal_name"
    "Storage-level alias (e.g. `varchar`), preferred for display when present")
    (.optional .text) <|
  .cons (mayLack "has_precision" "Whether columns of this type carry a numeric precision")
    .flag <|
  .cons (mayLack "implicit_precision"
    ("Whether the server falls back to a default precision when a column\n" ++
      "declares none (`timestamp`, `interval`, ...)")) .flag
  .nil

/-- The format of a column type. -/
def sqlTypeFormat : Format :=
  .record ⟨"SqlType", "Column type as reported by the catalog"⟩ sqlTypeMembers

/-- The members of a column. -/
def columnMembers : Members :=
  .cons (required "name" "Column name") .text <|
  .cons (required "type" "Column type") sqlTypeFormat <|
  .cons (mayLack "not_null" "Whether the column rejects NULL values") .flag <|
  .cons (mayLack "primary_key" "Whether this column is part of the primary key") .flag <|
  .cons (mayLack "precision" "Numeric precision, only meaningful for precision-bearing types")
    (.optional .word)
  .nil

/-- The format of a column. -/
def columnFormat : Format := .record ⟨"Column", "Column definition within a table"⟩ columnMembers

/-- The members of a foreign key. -/
def foreignKeyMembers : Members :=
  .cons (required "name" "Constraint name, unique within a schema") .text <|
  .cons (required "columns" "Source-side column names, in constraint order") (.list .text) <|
  .cons (required "index" "Entries of the referenced index, in index order") (.list .entry)
  .nil

/-- The format of a foreign key. -/
def foreignKeyFormat : Format :=
  .record ⟨"ForeignKey", "Foreign key constraint"⟩ foreignKeyMembers

/-- The members of a join path. -/
def joinPathMembers : Members :=
  .cons (required "table" "Join table name") .text <|
  .cons (required "target_foreign_key"
    "Foreign key from the join table to the relation's target") foreignKeyFormat
  .nil

/-- The format of a join path. -/
def joinPathFormat : Format :=
  .record ⟨"JoinPath", "Join table used by a many-to-many relation"⟩ joinPathMembers

/-- The members of a relation. -/
def relationMembers : Members :=
  .cons (required "kind" "Relation classification") .kind <|
  .cons (required "source_table" "Table the relation originates from") .text <|
  .cons (mayLack "target_schema"
    "Schema of the target table, when it is not the relation's own schema")
    (.optional .text) <|
  .cons (required "target_table" "Table the relation points to") .text <|
  .cons (required "foreign_key" "Foreign key backing the relation") foreignKeyFormat <|
  .cons (mayLack "join" "Join table, for many-to-many relations") (.optional joinPathFormat)
  .nil

/-- The format of a relation. -/
def relationFormat : Format :=
  .record ⟨"Relation", "Directed relation between two tables"⟩ relationMembers

/-- The members of a table. -/
def tableMembers : Members :=
  .cons (required "name" "Table name") .text <|
  .cons (required "columns" "Columns in catalog order") (.list columnFormat) <|
  .cons (mayLack "relations" "Relations originating from this table") (.list relationFormat)
  .nil

/-- The format of a table. -/
def tableFormat : Format := .record ⟨"Table", "Table definition"⟩ tableMembers

/-- The members of a schema. -/
def schemaMembers : Members :=
  .cons (required "name" "Schema name") .text <|
  .cons (required "tables" "Tables in insertion order") (.list tableFormat)
  .nil

/-- The format of a schema. -/
def schemaFormat : Format := .record ⟨"Schema", "Named namespace of tables"⟩ schemaMembers

/-- The members of a catalog. -/
def catalogMembers : Members :=
  .cons (required "schemas" "Schemas in load order") (.list schemaFormat) .nil

/-- What the record of a catalog describes. -/
def catalogLabel : Label := ⟨"Catalog", "The loaded set of schemas"⟩

/-- **The format of a catalog.** -/
def catalogFormat : Format := .record catalogLabel catalogMembers

end Snapshot

/-! ### Values of the formats

Each type of the model corresponds to the tuples of its format. -/

/-- The tuple of a column type. -/
def SqlType.toVal (t : SqlType) : sqlTypeFormat.Val :=
  (t.name, t.internalName, t.hasPrecision, t.implicitPrecision, ())

/-- The column type of a tuple. -/
def SqlType.ofVal : sqlTypeFormat.Val → SqlType :=
  fun (name, internalName, hasPrecision, implicitPrecision, ()) =>
    { name, internalName, hasPrecision, implicitPrecision }

/-- The tuple of a column. -/
def Column.toVal (c : Column) : columnFormat.Val :=
  (c.name, c.type.toVal, c.notNull, c.primaryKey, c.precision, ())

/-- The column of a tuple. -/
def Column.ofVal : columnFormat.Val → Column :=
  fun (name, type, notNull, primaryKey, precision, ()) =>
    { name, type := .ofVal type, notNull, primaryKey, precision }

/-- The tuple of a foreign key. -/
def ForeignKey.toVal (k : ForeignKey) : foreignKeyFormat.Val := (k.name, k.columns, k.index, ())

/-- The foreign key of a tuple. -/
def ForeignKey.ofVal : foreignKeyFormat.Val → ForeignKey :=
  fun (name, columns, index, ()) => { name, columns, index }

/-- The tuple of a join path. -/
def JoinPath.toVal (p : JoinPath) : joinPathFormat.Val := (p.table, p.targetForeignKey.toVal, ())

/-- The join path of a tuple. -/
def JoinPath.ofVal : joinPathFormat.Val → JoinPath :=
  fun (table, key, ()) => { table, targetForeignKey := .ofVal key }

/-- The tuple of a relation. -/
def Relation.toVal (r : Relation) : relationFormat.Val :=
  (r.kind, r.sourceTable, r.targetSchema, r.targetTable, r.foreignKey.toVal,
    r.join.map JoinPath.toVal, ())

/-- The relation of a tuple. -/
def Relation.ofVal : relationFormat.Val → Relation :=
  fun (kind, sourceTable, targetSchema, targetTable, key, join, ()) =>
    { kind, sourceTable, targetSchema, targetTable, foreignKey := .ofVal key
      join := Option.map JoinPath.ofVal join }

/-- The tuple of a table. -/
def Table.toVal (t : Table) : tableFormat.Val :=
  (t.name, t.columns.map Column.toVal, t.relations.map Relation.toVal, ())

/-- The table of a tuple. -/
def Table.ofVal : tableFormat.Val → Table :=
  fun (name, columns, relations, ()) =>
    { name, columns := List.map Column.ofVal columns
      relations := List.map Relation.ofVal relations }

/-- The tuple of a schema. -/
def Schema.toVal (s : Schema) : schemaFormat.Val := (s.name, s.tables.map Table.toVal, ())

/-- The schema of a tuple. -/
def Schema.ofVal : schemaFormat.Val → Schema :=
  fun (name, tables, ()) => { name, tables := List.map Table.ofVal tables }

/-- The tuple of a catalog. -/
def Catalog.toVal (c : Catalog) : catalogFormat.Val := (c.schemas.map Schema.toVal, ())

/-- The catalog of a tuple. -/
def Catalog.ofVal : catalogFormat.Val → Catalog :=
  fun (schemas, ()) => { schemas := List.map Schema.ofVal schemas }

/-! ### Snapshots -/

/-- **Snapshot error:** why a text is not the snapshot of a catalog. -/
inductive SnapshotError where
  /-- The text does not have the format. -/
  | format (cause : Json.Error)
  /-- The catalog is not valid. -/
  | invalid (cause : CatalogError)

/-- The text of a snapshot error. -/
def SnapshotError.message : SnapshotError → String
  | format cause => cause.message
  | invalid cause => cause.message

/-- **Writing a snapshot.** -/
def Catalog.toSnapshot (catalog : Catalog) : String :=
  (catalogFormat.toJson catalog.toVal).pretty

/-- **Reading a snapshot:** the catalog must be valid. -/
def Catalog.ofSnapshot (text : String) : Except SnapshotError Catalog := do
  let catalog ← match catalogFormat.parse text with
    | .ok value => .ok (Catalog.ofVal value)
    | .error cause => .error (.format cause)
  match catalog.validate with
  | .ok () => return catalog
  | .error cause => throw (.invalid cause)

/-- **The published schema** of snapshots. -/
def snapshotSchema : Json.Value := publish catalogLabel catalogMembers

end SchemaDiagram
