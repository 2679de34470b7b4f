import SchemaDiagram.Catalog.Basic
import SchemaDiagram.Text.Order

/-!
# Validity of a catalog

A catalog is valid if it violates no rule of the model. `Schema.violations` lists what breaks
the rules that concern one schema by itself, `Catalog.violations` adds, schema by schema, what
breaks the rules on relations into another schema. Validation reports the first violation:

* table names are distinct in a schema, column names in a table;
* only a type that carries a precision comes with one;
* a relation that names no target schema has its source and its target in its own schema, and
  the columns of its key on the table that owns the key;
* a relation that names a target schema has its source in its own schema and its target in
  the first schema of that name.
-/

namespace SchemaDiagram

/-! ### Violations -/

/-- **Catalog error:** what is wrong with a catalog, or with a request to it. -/
inductive CatalogError where
  | unknownRelationKind (tag : String)
  | duplicateTable (schema table : String)
  | duplicateColumn (table column : String)
  | unexpectedPrecision (table column type : String)
  | unknownForeignKeyColumn (table foreignKey column : String)
  | unknownRelationTable (table target : String)
  | schemaNotFound (schema : String)
  deriving DecidableEq

/-- The text of a catalog error. -/
def CatalogError.message : CatalogError → String
  | unknownRelationKind tag => "Unknown relation type: " ++ tag
  | duplicateTable schema table => "duplicate table " ++ table ++ " in schema " ++ schema
  | duplicateColumn table column => "duplicate column " ++ column ++ " in table " ++ table
  | unexpectedPrecision table column type =>
    "column " ++ table ++ "." ++ column ++ " has a precision but type " ++ type ++
      " does not carry one"
  | unknownForeignKeyColumn table foreignKey column =>
    "foreign key " ++ foreignKey ++ " on " ++ table ++ " references unknown column " ++ column
  | unknownRelationTable table target =>
    "relation on " ++ table ++ " references unknown table " ++ target
  | schemaNotFound schema => "schema " ++ schema ++ " not found in catalog"

/-- The kind with this tag, or the error that there is none. -/
def RelationKind.ofTag (tag : String) : Except CatalogError RelationKind :=
  match ofTag? tag with
  | some kind => .ok kind
  | none => .error (.unknownRelationKind tag)

/-- The schema of this name, or the error that there is none. -/
def Catalog.requireSchema (catalog : Catalog) (name : String) : Except CatalogError Schema :=
  match catalog.schema? name with
  | some schema => .ok schema
  | none => .error (.schemaNotFound name)

/-! ### Rules inside a schema -/

/-- What breaks the rules on the columns of a table, given the names of the columns before:
column by column, a repeated name before an unexpected precision. -/
def columnViolations (table : String) (seen : List String) : List Column → List CatalogError
  | [] => []
  | column :: columns =>
    -- The name is compared with those of the columns before it only.
    let repeated :=
      if column.name ∈ seen then [.duplicateColumn table column.name] else []
    let precision :=
      if column.precision.isSome ∧ ¬column.type.hasPrecision then
        [.unexpectedPrecision table column.name column.type.name]
      else []
    repeated ++ precision ++ columnViolations table (column.name :: seen) columns

/-- The table on which the columns of a relation's key are: the join table if there is one,
the target of a one-to-many relation, else the source. -/
def Relation.keyOwner (relation : Relation) : String :=
  match relation.join with
  | some join => join.table
  | none => if relation.kind = .oneToMany then relation.targetTable else relation.sourceTable

/-- What breaks the rules on a relation of the given table that stays in its schema: a source
or a target that is missing, then a missing owner of the key, else columns that the owner
lacks. -/
def Schema.localViolations (schema : Schema) (table : String) (relation : Relation) :
    List CatalogError :=
  let ends := ([relation.sourceTable, relation.targetTable].filter
    fun name => decide (name ∉ schema.tableNames)).map (.unknownRelationTable table ·)
  let key := match schema.table? relation.keyOwner with
    -- A missing owner is reported once more if it is one of the two ends.
    | none => [.unknownRelationTable table relation.keyOwner]
    | some owner =>
      (relation.foreignKey.columns.filter fun column => (owner.column? column).isNone).map
        (.unknownForeignKeyColumn relation.keyOwner relation.foreignKey.name ·)
  ends ++ key

/-- What breaks the rules on one table: its columns first, then those of its relations that
stay in the schema. -/
def Schema.tableViolations (schema : Schema) (table : Table) : List CatalogError :=
  columnViolations table.name [] table.columns ++
    (table.relations.filter (·.targetSchema.isNone)).flatMap
      (schema.localViolations table.name)

/-- **Violations of a schema** by itself: repeated tables, then table by table. -/
def Schema.violations (schema : Schema) : List CatalogError :=
  (repeats [] schema.tableNames).map (.duplicateTable schema.name ·) ++
    schema.tables.flatMap schema.tableViolations

/-! ### Rules across schemas -/

/-- What breaks the rule on a relation of the given table that names a target schema. -/
def Catalog.crossViolations (catalog : Catalog) (schema : Schema) (table : String)
    (relation : Relation) : List CatalogError :=
  match relation.targetSchema with
  | none => []
  | some target =>
    let found := (catalog.schema? target).bind (·.table? relation.targetTable)
    -- A missing source is reported in the words for a missing target.
    if found.isNone ∨ (schema.table? relation.sourceTable).isNone then
      [.unknownRelationTable table (target ++ "." ++ relation.targetTable)]
    else []

/-- **Violations of a catalog:** schema by schema, those of the schema by itself and then
those of its relations into other schemas. -/
def Catalog.violations (catalog : Catalog) : List CatalogError :=
  catalog.schemas.flatMap fun schema =>
    schema.violations ++
      schema.tables.flatMap fun table =>
        table.relations.flatMap (catalog.crossViolations schema table.name)

/-! ### Validation -/

/-- The first error of a list, if there is one. -/
def firstError {ε : Type} : List ε → Except ε Unit
  | [] => .ok ()
  | e :: _ => .error e

/-- **Validation of a schema** by itself. -/
def Schema.validate (schema : Schema) : Except CatalogError Unit := firstError schema.violations

/-- **Validation of a catalog.** -/
def Catalog.validate (catalog : Catalog) : Except CatalogError Unit :=
  firstError catalog.violations

end SchemaDiagram
