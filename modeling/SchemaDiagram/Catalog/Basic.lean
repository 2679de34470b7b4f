/-!
# The catalog model

A **catalog** is what one reading of a database yields: schemas, their tables, the columns of
each table and the directed relations that start at it. All values are plain data; relations
and foreign keys refer to tables and columns by name.

* `RelationKind`, `Relation`, `ForeignKey`, `IndexEntry`, `JoinPath`: how tables are linked;
* `SqlType`, `Column`, `Table`, `Schema`, `Catalog`: the containment from type to catalog;
* `Schema.table?`, `Table.column?`, `Catalog.schema?`: look-up, where the first of several
  equal names counts.
-/

namespace SchemaDiagram

/-! ### Relations between tables -/

/-- **Relation kind.** How many rows stand on each side of a directed relation. -/
inductive RelationKind where
  /-- Many source rows reference one target row. -/
  | manyToOne
  /-- One source row is referenced by many target rows. -/
  | oneToMany
  /-- Source and target are linked through a join table. -/
  | manyToMany
  deriving DecidableEq

namespace RelationKind

/-- The short tag by which a kind is written. -/
def tag : RelationKind → String
  | manyToOne => "m2o"
  | oneToMany => "o2m"
  | manyToMany => "m2m"

/-- All kinds, in the order in which their tags are published. -/
def all : List RelationKind := [manyToOne, oneToMany, manyToMany]

/-- The kind with this tag, if there is one. -/
def ofTag? (tag : String) : Option RelationKind := all.find? (·.tag = tag)

@[simp] theorem ofTag?_tag (kind : RelationKind) : ofTag? kind.tag = some kind := by
  cases kind <;> decide

end RelationKind

/-- **Index entry.** One key of the index that a foreign key refers to. -/
inductive IndexEntry where
  /-- A plain column of the referenced table. -/
  | column (name : String)
  /-- An index expression such as `lower(email)`. -/
  | expression (text : String)
  deriving DecidableEq

/-- The column name of an entry that is a plain column. -/
def IndexEntry.column? : IndexEntry → Option String
  | column name => some name
  | expression _ => none

/-- **Foreign key.** A constraint from some columns of one table to an index of another. -/
structure ForeignKey where
  /-- The name of the constraint. -/
  name : String
  /-- The columns on the referencing side, in constraint order. -/
  columns : List String
  /-- The keys of the referenced index, in index order. -/
  index : List IndexEntry
  deriving DecidableEq

/-- The column on the referenced side at which all relation lines of the key end: the first
plain column of the index. -/
def ForeignKey.joinColumn? (key : ForeignKey) : Option String :=
  key.index.findSome? IndexEntry.column?

/-- **Join path.** The table in between and its key onto the far side of a many-to-many
relation. -/
structure JoinPath where
  /-- The name of the join table. -/
  table : String
  /-- The key from the join table to the target of the relation. -/
  targetForeignKey : ForeignKey
  deriving DecidableEq

/-- **Relation.** A directed link from a source table to a target table. -/
structure Relation where
  kind : RelationKind
  sourceTable : String
  /-- The schema of the target table, where it is another schema than the source's. -/
  targetSchema : Option String
  targetTable : String
  /-- The key that backs the relation. -/
  foreignKey : ForeignKey
  /-- The join table of a many-to-many relation. -/
  join : Option JoinPath
  deriving DecidableEq

/-! ### Columns, tables, schemas -/

/-- **Type of a column,** as the database reports it. -/
structure SqlType where
  /-- The canonical name, such as `character varying`. -/
  name : String
  /-- The storage-level alias, such as `varchar`. -/
  internalName : Option String
  /-- Whether columns of this type carry a numeric precision. -/
  hasPrecision : Bool
  /-- Whether a column that declares no precision gets one from the server. -/
  implicitPrecision : Bool
  deriving DecidableEq

/-- The name to show: the alias where there is one, else the canonical name. -/
def SqlType.displayName (type : SqlType) : String := type.internalName.getD type.name

/-- **Column** of a table. -/
structure Column where
  name : String
  type : SqlType
  /-- Whether the column refuses nulls. -/
  notNull : Bool
  /-- Whether the column belongs to the primary key. -/
  primaryKey : Bool
  precision : Option UInt32
  deriving DecidableEq

/-- The type asks for a precision, the server supplies none by itself, and the column has
none. -/
def Column.missesPrecision (column : Column) : Bool :=
  column.type.hasPrecision && !column.type.implicitPrecision && column.precision.isNone

/-- **Table** with its columns and the relations that start at it. -/
structure Table where
  name : String
  columns : List Column
  relations : List Relation
  deriving DecidableEq

/-- The first column of this name. -/
def Table.column? (table : Table) (name : String) : Option Column :=
  table.columns.find? (·.name = name)

/-- The many-to-one relations of a table, in order. -/
def Table.manyToOne (table : Table) : List Relation :=
  table.relations.filter (·.kind = .manyToOne)

/-- **Schema:** a named list of tables. -/
structure Schema where
  name : String
  tables : List Table
  deriving DecidableEq

/-- The first table of this name. -/
def Schema.table? (schema : Schema) (name : String) : Option Table :=
  schema.tables.find? (·.name = name)

/-- The names of the tables, in order. -/
def Schema.tableNames (schema : Schema) : List String := schema.tables.map (·.name)

/-- The number of columns of all tables together. -/
def Schema.columnCount (schema : Schema) : Nat :=
  (schema.tables.flatMap (·.columns)).length

/-- **Catalog:** the loaded schemas, in load order. -/
structure Catalog where
  schemas : List Schema
  deriving DecidableEq

/-- The first schema of this name. -/
def Catalog.schema? (catalog : Catalog) (name : String) : Option Schema :=
  catalog.schemas.find? (·.name = name)

/-- The number of tables of all schemas together. -/
def Catalog.tableCount (catalog : Catalog) : Nat :=
  (catalog.schemas.flatMap (·.tables)).length

end SchemaDiagram
