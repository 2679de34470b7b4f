import SchemaDiagram.Catalog.Basic

/-!
# Catalog rows

The flat facts from which a catalog is assembled, one row for one fact. A row belongs to a
schema (`Row.schemaName`) and, unless it only announces a schema, to a table of that schema
(`Row.tableName?`): mentioning a table in any row registers it. The target of a foreign key
is not registered by the key.
-/

namespace SchemaDiagram

/-- A column with its place in the table. -/
structure ColumnRow where
  schema : String
  table : String
  name : String
  /-- The place of the column in its table; columns are ordered by it. -/
  ordinal : Int32
  type : SqlType
  notNull : Bool
  precision : Option UInt32

/-- One referencing column of a foreign key. -/
structure ForeignKeyRow where
  schema : String
  table : String
  /-- The name of the constraint. -/
  name : String
  targetSchema : String
  targetTable : String
  column : String
  /-- The place of the column in the constraint. -/
  position : Int32

/-- One entry of the index that a foreign key refers to. -/
structure IndexEntryRow where
  schema : String
  table : String
  foreignKey : String
  /-- The place of the entry in the index. -/
  position : Int32
  entry : IndexEntry

/-- **Catalog row.** -/
inductive Row where
  /-- The schema exists. -/
  | schema (schema : String)
  /-- The table exists, be it without columns. -/
  | table (schema table : String)
  | column (row : ColumnRow)
  /-- The column belongs to the primary key of the table. -/
  | primaryKey (schema table column : String)
  | foreignKey (row : ForeignKeyRow)
  | indexEntry (row : IndexEntryRow)

namespace Row

/-- The schema to which the row belongs. -/
def schemaName : Row → String
  | schema s => s
  | table s _ => s
  | column row => row.schema
  | primaryKey s _ _ => s
  | foreignKey row => row.schema
  | indexEntry row => row.schema

/-- The table to which the row belongs. -/
def tableName? : Row → Option String
  | schema _ => none
  | table _ t => some t
  | column row => some row.table
  | primaryKey _ t _ => some t
  | foreignKey row => some row.table
  | indexEntry row => some row.table

/-- The foreign key of its table that the row describes. -/
def keyName? : Row → Option String
  | foreignKey row => some row.name
  | indexEntry row => some row.foreignKey
  | _ => none

/-- The row of a column. -/
def column? : Row → Option ColumnRow
  | column row => some row
  | _ => none

/-- The name of a column of the primary key. -/
def primaryKeyColumn? : Row → Option String
  | primaryKey _ _ c => some c
  | _ => none

/-- The row of a referencing column. -/
def foreignKey? : Row → Option ForeignKeyRow
  | foreignKey row => some row
  | _ => none

/-- The row of an index entry. -/
def indexEntry? : Row → Option IndexEntryRow
  | indexEntry row => some row
  | _ => none

end Row

end SchemaDiagram
