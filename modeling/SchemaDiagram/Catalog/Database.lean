import SchemaDiagram.Catalog.Build
import SchemaDiagram.Catalog.ColumnType

/-!
# Reading a database

The database answers six queries, each with a list of records whose fields may be null.
`Database.rows` reads the record sets in the order of the queries, record by record and field
by field, and either yields the catalog rows they describe or the first obstacle: a query that
fails, or a null where a value is needed.
-/

namespace SchemaDiagram

/-! ### Record sets -/

/-- The six record sets, in the order in which they are read. -/
inductive RecordSet where
  | schemas
  | tables
  | columns
  | primaryKeys
  | foreignKeys
  | indexEntries
  deriving DecidableEq

/-- The answer to the query for schemas. -/
structure SchemaRecord where
  schemaName : Option String

/-- The answer to the query for tables. -/
structure TableRecord where
  schemaName : Option String
  tableName : Option String

/-- The answer to the query for columns. -/
structure ColumnRecord where
  schemaName : Option String
  tableName : Option String
  columnName : Option String
  ordinal : Option Int32
  /-- The short name of the type. -/
  shortTypeName : Option String
  /-- The canonical name of the type. -/
  canonicalTypeName : Option String
  /-- The type modifier, which encodes the precision. -/
  typmod : Option Int32
  notNull : Option Bool

/-- The answer to the query for primary keys. -/
structure PrimaryKeyRecord where
  schemaName : Option String
  tableName : Option String
  columnName : Option String

/-- The answer to the query for foreign keys. -/
structure ForeignKeyRecord where
  schemaName : Option String
  tableName : Option String
  foreignKey : Option String
  targetSchema : Option String
  targetTable : Option String
  columnName : Option String
  position : Option Int32

/-- The answer to the query for index entries. -/
structure IndexEntryRecord where
  schemaName : Option String
  tableName : Option String
  foreignKey : Option String
  position : Option Int32
  /-- The name of the column; null for an index expression. -/
  columnName : Option String
  expression : Option String

/-- **Database:** its answers to the catalog queries, and the query that it refuses, if any. -/
structure Database where
  schemas : List SchemaRecord
  tables : List TableRecord
  columns : List ColumnRecord
  primaryKeys : List PrimaryKeyRecord
  foreignKeys : List ForeignKeyRecord
  indexEntries : List IndexEntryRecord
  refused : Option RecordSet

/-! ### Obstacles -/

/-- **Load error:** why the catalog rows could not be read. -/
inductive LoadError where
  /-- The database refused a catalog query. -/
  | queryRefused
  /-- A field that must have a value is null. -/
  | unexpectedNull (field : String)
  deriving DecidableEq

/-- The text of a load error, causes included. -/
def LoadError.message : LoadError → String
  | queryRefused =>
    "catalog query failed: error returned from database: permission denied: permission denied"
  | unexpectedNull field =>
    let cause := "unexpected null; try decoding as an `Option`"
    "error occurred while decoding column \"" ++ field ++ "\": " ++ cause ++ ": " ++ cause

/-- The value of a field that must not be null. -/
def nonNull {α : Type} (field : String) : Option α → Except LoadError α
  | some value => .ok value
  | none => .error (.unexpectedNull field)

/-! ### From records to rows -/

/-- The row that a schema record describes. -/
def SchemaRecord.row (r : SchemaRecord) : Except LoadError Row := do
  return .schema (← nonNull "schema_name" r.schemaName)

/-- The row that a table record describes. -/
def TableRecord.row (r : TableRecord) : Except LoadError Row := do
  let schema ← nonNull "schema_name" r.schemaName
  let table ← nonNull "table_name" r.tableName
  return .table schema table

/-- The row that a column record describes; the fields of the type are read first. -/
def ColumnRecord.row (r : ColumnRecord) : Except LoadError Row := do
  let short ← nonNull "typname" r.shortTypeName
  let canonical ← nonNull "type_name" r.canonicalTypeName
  let typmod ← nonNull "typmod" r.typmod
  let schema ← nonNull "schema_name" r.schemaName
  let table ← nonNull "table_name" r.tableName
  let name ← nonNull "column_name" r.columnName
  let ordinal ← nonNull "ordinal" r.ordinal
  let notNull ← nonNull "not_null" r.notNull
  return .column
    { schema, table, name, ordinal, notNull
      type := .resolve short canonical
      precision := precisionOf short typmod }

/-- The row that a primary-key record describes. -/
def PrimaryKeyRecord.row (r : PrimaryKeyRecord) : Except LoadError Row := do
  let schema ← nonNull "schema_name" r.schemaName
  let table ← nonNull "table_name" r.tableName
  let column ← nonNull "column_name" r.columnName
  return .primaryKey schema table column

/-- The row that a foreign-key record describes. -/
def ForeignKeyRecord.row (r : ForeignKeyRecord) : Except LoadError Row := do
  let schema ← nonNull "schema_name" r.schemaName
  let table ← nonNull "table_name" r.tableName
  let name ← nonNull "foreign_key" r.foreignKey
  let targetSchema ← nonNull "target_schema" r.targetSchema
  let targetTable ← nonNull "target_table" r.targetTable
  let column ← nonNull "column_name" r.columnName
  let position ← nonNull "position" r.position
  return .foreignKey { schema, table, name, targetSchema, targetTable, column, position }

/-- The entry that an index record describes: its column if it has one, else its expression,
where a null counts as the empty text. -/
def IndexEntryRecord.entry (r : IndexEntryRecord) : IndexEntry :=
  match r.columnName with
  | some name => .column name
  | none => .expression (r.expression.getD "")

/-- The row that an index record describes. -/
def IndexEntryRecord.row (r : IndexEntryRecord) : Except LoadError Row := do
  let schema ← nonNull "schema_name" r.schemaName
  let table ← nonNull "table_name" r.tableName
  let foreignKey ← nonNull "foreign_key" r.foreignKey
  let position ← nonNull "position" r.position
  return .indexEntry { schema, table, foreignKey, position, entry := r.entry }

/-! ### The whole database -/

/-- The answer to one query: an error if the database refuses it, else the rows of its records
up to the first record with an unexpected null. -/
def Database.answer {α : Type} (db : Database) (set : RecordSet) (records : List α)
    (row : α → Except LoadError Row) : Except LoadError (List Row) :=
  if db.refused = some set then .error .queryRefused else records.mapM row

/-- **Reading a database:** all its rows, set by set, or the first obstacle. -/
def Database.rows (db : Database) : Except LoadError (List Row) := do
  let schemas ← db.answer .schemas db.schemas SchemaRecord.row
  let tables ← db.answer .tables db.tables TableRecord.row
  let columns ← db.answer .columns db.columns ColumnRecord.row
  let primaryKeys ← db.answer .primaryKeys db.primaryKeys PrimaryKeyRecord.row
  let foreignKeys ← db.answer .foreignKeys db.foreignKeys ForeignKeyRecord.row
  let indexEntries ← db.answer .indexEntries db.indexEntries IndexEntryRecord.row
  return schemas ++ tables ++ columns ++ primaryKeys ++ foreignKeys ++ indexEntries

end SchemaDiagram
