import Mathlib.Data.List.Forall2
import SchemaDiagram.Catalog.Database
import SchemaDiagram.Proofs.Results

/-!
# The order in which a database is read

A database is read in steps: the query for a record set is sent, then the fields of its records
that must have a value are taken, record by record. `Database.steps` lists all steps of all record
sets in order, and `Database.obstacle?` says what is in the way of a step, whatever comes before it
or after it.

* `FailsAtFirst`: a computation ends at the first obstacle that is met along some steps, with a
  lemma for each way in which the reading is put together;
* `Database.rows_failsAtFirst`: reading a database does so along its steps;
* `Says`: which row a record describes, for each kind of record, and `Database.Says`: the rows of
  all records;
* `Database.rows_eq_ok_iff`: these are the rows that are read, unless a query is refused.
-/

namespace SchemaDiagram

/-! ### Steps -/

/-- The record sets in the order in which they are read. -/
def RecordSet.all : List RecordSet :=
  [.schemas, .tables, .columns, .primaryKeys, .foreignKeys, .indexEntries]

/-- Every record set is read. -/
theorem RecordSet.mem_all (set : RecordSet) : set ∈ all := by
  cases set <;> decide

/-- **Required field** of a record: its name, and whether the record has a value for it. -/
structure RequiredField where
  name : String
  given : Bool
  deriving DecidableEq

/-- The required field of a schema record. -/
def SchemaRecord.required (r : SchemaRecord) : List RequiredField :=
  [⟨"schema_name", r.schemaName.isSome⟩]

/-- The required fields of a table record, in reading order. -/
def TableRecord.required (r : TableRecord) : List RequiredField :=
  [⟨"schema_name", r.schemaName.isSome⟩, ⟨"table_name", r.tableName.isSome⟩]

/-- The required fields of a column record, in reading order. -/
def ColumnRecord.required (r : ColumnRecord) : List RequiredField :=
  [⟨"typname", r.shortTypeName.isSome⟩, ⟨"type_name", r.canonicalTypeName.isSome⟩,
    ⟨"typmod", r.typmod.isSome⟩, ⟨"schema_name", r.schemaName.isSome⟩,
    ⟨"table_name", r.tableName.isSome⟩, ⟨"column_name", r.columnName.isSome⟩,
    ⟨"ordinal", r.ordinal.isSome⟩, ⟨"not_null", r.notNull.isSome⟩]

/-- The required fields of a primary-key record, in reading order. -/
def PrimaryKeyRecord.required (r : PrimaryKeyRecord) : List RequiredField :=
  [⟨"schema_name", r.schemaName.isSome⟩, ⟨"table_name", r.tableName.isSome⟩,
    ⟨"column_name", r.columnName.isSome⟩]

/-- The required fields of a foreign-key record, in reading order. -/
def ForeignKeyRecord.required (r : ForeignKeyRecord) : List RequiredField :=
  [⟨"schema_name", r.schemaName.isSome⟩, ⟨"table_name", r.tableName.isSome⟩,
    ⟨"foreign_key", r.foreignKey.isSome⟩, ⟨"target_schema", r.targetSchema.isSome⟩,
    ⟨"target_table", r.targetTable.isSome⟩, ⟨"column_name", r.columnName.isSome⟩,
    ⟨"position", r.position.isSome⟩]

/-- The required fields of an index record, in reading order: its column and its expression may be
null. -/
def IndexEntryRecord.required (r : IndexEntryRecord) : List RequiredField :=
  [⟨"schema_name", r.schemaName.isSome⟩, ⟨"table_name", r.tableName.isSome⟩,
    ⟨"foreign_key", r.foreignKey.isSome⟩, ⟨"position", r.position.isSome⟩]

/-- The required fields of the records of a set, record by record. -/
def Database.required (db : Database) : RecordSet → List (List RequiredField)
  | .schemas => db.schemas.map SchemaRecord.required
  | .tables => db.tables.map TableRecord.required
  | .columns => db.columns.map ColumnRecord.required
  | .primaryKeys => db.primaryKeys.map PrimaryKeyRecord.required
  | .foreignKeys => db.foreignKeys.map ForeignKeyRecord.required
  | .indexEntries => db.indexEntries.map IndexEntryRecord.required

/-- **Step** of the reading of a database. -/
inductive ReadStep where
  /-- The query for a record set is sent. -/
  | query (set : RecordSet)
  /-- A required field of a record is taken. -/
  | field (field : RequiredField)

/-- The steps of a record set: its query, then the fields of its records. -/
def Database.stepsOf (db : Database) (set : RecordSet) : List ReadStep :=
  .query set :: (db.required set).flatMap fun fields => fields.map .field

/-- **The steps of a database,** in reading order. -/
def Database.steps (db : Database) : List ReadStep := RecordSet.all.flatMap db.stepsOf

/-- **Obstacle:** why a step fails, if it does. -/
def Database.obstacle? (db : Database) : ReadStep → Option LoadError
  | .query set => if db.refused = some set then some .queryRefused else none
  | .field field => if field.given then none else some (.unexpectedNull field.name)

/-! ### Failing at the first obstacle -/

/-- **Failing at the first obstacle.** The computation ends with the obstacle of the first of these
steps that meets one, and it succeeds if none of them does. -/
def FailsAtFirst {σ ε α : Type} (obstacle? : σ → Option ε) (steps : List σ) (x : Except ε α) :
    Prop :=
  ∀ e, x = .error e ↔ steps.findSome? obstacle? = some e

namespace FailsAtFirst

variable {σ ε α β : Type} {obstacle? : σ → Option ε} {steps steps' : List σ}

/-- What succeeds without a step meets no obstacle. -/
theorem ok (a : α) : FailsAtFirst obstacle? [] (.ok a) := by
  intro e
  exact iff_of_false (fun h => nomatch h) fun h => nomatch h

/-- The steps of the first computation come first. -/
theorem bind {x : Except ε α} {next : α → Except ε β} (hx : FailsAtFirst obstacle? steps x)
    (hnext : ∀ a, FailsAtFirst obstacle? steps' (next a)) :
    FailsAtFirst obstacle? (steps ++ steps') (x >>= next) := by
  intro e
  rw [List.findSome?_append]
  cases x with
  | error e' =>
    -- The first computation has failed, and the second one is not reached.
    have hfirst : steps.findSome? obstacle? = some e' := (hx e').1 rfl
    rw [hfirst, Option.some_or, Option.some.injEq]
    exact ⟨Except.error.inj, congrArg Except.error⟩
  -- It has succeeded, so none of its steps has met an obstacle.
  | ok a =>
    have hnone : steps.findSome? obstacle? = none := by
      rw [Option.eq_none_iff_forall_ne_some]
      intro e' hfirst
      nomatch (hx e').2 hfirst
    rw [hnone, Option.none_or]
    exact hnext a e

-- The value is computed without a step.
/-- What is computed from the value of a computation adds no step. -/
theorem bind_ok {x : Except ε α} (hx : FailsAtFirst obstacle? steps x) (f : α → β) :
    FailsAtFirst obstacle? steps (x >>= fun a => .ok (f a)) := by
  have hbind := hx.bind fun a => ok (f a)
  rwa [List.append_nil] at hbind

/-- A pass over a list takes the steps of its items one after the other. -/
theorem mapM {f : α → Except ε β} {stepsOf : α → List σ}
    (h : ∀ a, FailsAtFirst obstacle? (stepsOf a) (f a)) (items : List α) :
    FailsAtFirst obstacle? (items.flatMap stepsOf) (items.mapM f) := by
  induction items with
  | nil => exact ok []
  | cons a items ih =>
    -- The results are put together at the end, which is no step.
    rw [List.mapM_cons, List.flatMap_cons]
    exact (h a).bind fun b => ih.bind_ok _

/-- It fails just in case one of the steps meets an obstacle. -/
theorem isError_iff {x : Except ε α} (h : FailsAtFirst obstacle? steps x) :
    IsError x ↔ ∃ step ∈ steps, (obstacle? step).isSome := by
  rw [IsError, ← List.findSome?_isSome_iff, Option.isSome_iff_exists]
  exact exists_congr h

/-- **The first obstacle,** by the steps before it. -/
theorem eq_error_iff {x : Except ε α} (h : FailsAtFirst obstacle? steps x) {e : ε} :
    x = .error e ↔ ∃ before step after, steps = before ++ step :: after ∧
      (∀ earlier ∈ before, obstacle? earlier = none) ∧ obstacle? step = some e := by
  rw [h e, List.findSome?_eq_some_iff]
  constructor
  · rintro ⟨before, step, after, hsteps, hstep, hbefore⟩
    exact ⟨before, step, after, hsteps, hbefore, hstep⟩
  · rintro ⟨before, step, after, hsteps, hbefore, hstep⟩
    exact ⟨before, step, after, hsteps, hstep, hbefore⟩

end FailsAtFirst

/-! ### The steps of a reading -/

namespace Database

variable (db : Database)

/-- A required field is one step. -/
theorem nonNull_failsAtFirst {α : Type} (name : String) (value : Option α) :
    FailsAtFirst db.obstacle? [.field ⟨name, value.isSome⟩] (nonNull name value) := by
  intro e
  cases value with
  -- Without a value, the field is an obstacle by itself.
  | none =>
    rw [nonNull, List.findSome?_singleton]
    change _ ↔ some (LoadError.unexpectedNull name) = some e
    rw [Option.some.injEq]
    exact ⟨Except.error.inj, congrArg Except.error⟩
  | some a => exact iff_of_false (fun h => nomatch h) fun h => nomatch h

variable {db}

/-- A schema record has one field. -/
theorem schemaRecord_failsAtFirst (r : SchemaRecord) :
    FailsAtFirst db.obstacle? (r.required.map .field) r.row :=
  (db.nonNull_failsAtFirst _ _).bind_ok _

/-- A table record has the fields of its schema and its name. -/
theorem tableRecord_failsAtFirst (r : TableRecord) :
    FailsAtFirst db.obstacle? (r.required.map .field) r.row :=
  (db.nonNull_failsAtFirst _ _).bind fun _ => (db.nonNull_failsAtFirst _ _).bind_ok _

/-- The fields of the type are taken before the others. -/
theorem columnRecord_failsAtFirst (r : ColumnRecord) :
    FailsAtFirst db.obstacle? (r.required.map .field) r.row := by
  refine (db.nonNull_failsAtFirst _ r.shortTypeName).bind fun _ => ?_
  refine (db.nonNull_failsAtFirst _ r.canonicalTypeName).bind fun _ => ?_
  refine (db.nonNull_failsAtFirst _ r.typmod).bind fun _ => ?_
  refine (db.nonNull_failsAtFirst _ r.schemaName).bind fun _ => ?_
  refine (db.nonNull_failsAtFirst _ r.tableName).bind fun _ => ?_
  refine (db.nonNull_failsAtFirst _ r.columnName).bind fun _ => ?_
  refine (db.nonNull_failsAtFirst _ r.ordinal).bind fun _ => ?_
  exact (db.nonNull_failsAtFirst _ r.notNull).bind_ok _

/-- A primary-key record is read field by field. -/
theorem primaryKeyRecord_failsAtFirst (r : PrimaryKeyRecord) :
    FailsAtFirst db.obstacle? (r.required.map .field) r.row := by
  refine (db.nonNull_failsAtFirst _ r.schemaName).bind fun _ => ?_
  refine (db.nonNull_failsAtFirst _ r.tableName).bind fun _ => ?_
  exact (db.nonNull_failsAtFirst _ r.columnName).bind_ok _

/-- A foreign-key record is read field by field. -/
theorem foreignKeyRecord_failsAtFirst (r : ForeignKeyRecord) :
    FailsAtFirst db.obstacle? (r.required.map .field) r.row := by
  refine (db.nonNull_failsAtFirst _ r.schemaName).bind fun _ => ?_
  refine (db.nonNull_failsAtFirst _ r.tableName).bind fun _ => ?_
  refine (db.nonNull_failsAtFirst _ r.foreignKey).bind fun _ => ?_
  refine (db.nonNull_failsAtFirst _ r.targetSchema).bind fun _ => ?_
  refine (db.nonNull_failsAtFirst _ r.targetTable).bind fun _ => ?_
  refine (db.nonNull_failsAtFirst _ r.columnName).bind fun _ => ?_
  exact (db.nonNull_failsAtFirst _ r.position).bind_ok _

/-- Neither the column nor the expression of the entry is in the way. -/
theorem indexEntryRecord_failsAtFirst (r : IndexEntryRecord) :
    FailsAtFirst db.obstacle? (r.required.map .field) r.row := by
  refine (db.nonNull_failsAtFirst _ r.schemaName).bind fun _ => ?_
  refine (db.nonNull_failsAtFirst _ r.tableName).bind fun _ => ?_
  refine (db.nonNull_failsAtFirst _ r.foreignKey).bind fun _ => ?_
  exact (db.nonNull_failsAtFirst _ r.position).bind_ok _

/-- The query for a record set comes before its records. -/
theorem answer_failsAtFirst {α : Type} {row : α → Except LoadError Row}
    {required : α → List RequiredField}
    (h : ∀ r, FailsAtFirst db.obstacle? ((required r).map .field) (row r)) (set : RecordSet)
    (records : List α) :
    FailsAtFirst db.obstacle?
      (.query set :: (records.map required).flatMap fun fields => fields.map .field)
      (db.answer set records row) := by
  intro e
  rw [List.findSome?_cons, obstacle?, answer, List.flatMap_map]
  -- A refused query is the obstacle of the first step; else the records come next.
  split
  · rw [Option.some.injEq]
    exact ⟨Except.error.inj, congrArg Except.error⟩
  · exact FailsAtFirst.mapM h records e

/-- **Reading a database** fails at the first obstacle along its steps. -/
theorem rows_failsAtFirst (db : Database) : FailsAtFirst db.obstacle? db.steps db.rows := by
  -- Set after set, each with its own steps.
  refine (answer_failsAtFirst schemaRecord_failsAtFirst .schemas db.schemas).bind fun _ => ?_
  refine (answer_failsAtFirst tableRecord_failsAtFirst .tables db.tables).bind fun _ => ?_
  refine (answer_failsAtFirst columnRecord_failsAtFirst .columns db.columns).bind fun _ => ?_
  refine (answer_failsAtFirst primaryKeyRecord_failsAtFirst .primaryKeys db.primaryKeys).bind
    fun _ => ?_
  refine (answer_failsAtFirst foreignKeyRecord_failsAtFirst .foreignKeys db.foreignKeys).bind
    fun _ => ?_
  refine (answer_failsAtFirst indexEntryRecord_failsAtFirst .indexEntries db.indexEntries).bind
    fun _ => ?_
  exact .ok _

/-- Reading fails just in case a query is refused or a required field is null. -/
theorem isError_rows_iff {db : Database} : IsError db.rows ↔ db.refused.isSome ∨
    ∃ set, ∃ fields ∈ db.required set, ∃ field ∈ fields, ¬field.given := by
  rw [db.rows_failsAtFirst.isError_iff]
  constructor
  -- A step is a query or a field; which one it is says what is in its way.
  · rintro ⟨step, hstep, hobstacle⟩
    obtain ⟨set, -, hstep⟩ := List.mem_flatMap.1 hstep
    rcases List.mem_cons.1 hstep with rfl | hstep
    · rw [obstacle?] at hobstacle
      split at hobstacle
      · next hrefused => exact .inl (Option.isSome_iff_exists.2 ⟨set, hrefused⟩)
      · exact absurd hobstacle Bool.false_ne_true
    · -- A field that is given is no obstacle.
      obtain ⟨fields, hfields, hstep⟩ := List.mem_flatMap.1 hstep
      obtain ⟨field, hfield, rfl⟩ := List.mem_map.1 hstep
      refine .inr ⟨set, fields, hfields, field, hfield, fun hgiven => ?_⟩
      rw [obstacle?, if_pos hgiven] at hobstacle
      exact absurd hobstacle Bool.false_ne_true
  · rintro (hrefused | ⟨set, fields, hfields, field, hfield, hnull⟩)
    · -- The query that is refused is one of the steps.
      obtain ⟨set, hrefused⟩ := Option.isSome_iff_exists.1 hrefused
      refine ⟨.query set, List.mem_flatMap.2 ⟨set, set.mem_all, List.mem_cons_self⟩, ?_⟩
      rw [obstacle?, if_pos hrefused]
      rfl
    · -- The field is one of the steps of its record set.
      have hstep : ReadStep.field field ∈ db.stepsOf set :=
        List.mem_cons_of_mem _ (List.mem_flatMap.2 ⟨fields, hfields, List.mem_map_of_mem hfield⟩)
      refine ⟨.field field, List.mem_flatMap.2 ⟨set, set.mem_all, hstep⟩, ?_⟩
      rw [obstacle?, if_neg hnull]
      rfl

end Database

/-! ### What the records say -/

/-- **What a schema record says.** -/
inductive SchemaRecord.Says : SchemaRecord → Row → Prop
  | schema {schema : String} : Says ⟨some schema⟩ (.schema schema)

/-- **What a table record says.** -/
inductive TableRecord.Says : TableRecord → Row → Prop
  | table {schema table : String} : Says ⟨some schema, some table⟩ (.table schema table)

/-- **What a column record says.** Its type comes from the two names of the type, its precision from
the short one and the modifier. -/
inductive ColumnRecord.Says : ColumnRecord → Row → Prop
  | column {schema table name short canonical : String} {ordinal typmod : Int32}
      {notNull : Bool} :
      Says ⟨some schema, some table, some name, some ordinal, some short, some canonical,
          some typmod, some notNull⟩
        (.column ⟨schema, table, name, ordinal, .resolve short canonical, notNull,
          precisionOf short typmod⟩)

/-- **What a primary-key record says.** -/
inductive PrimaryKeyRecord.Says : PrimaryKeyRecord → Row → Prop
  | primaryKey {schema table column : String} :
      Says ⟨some schema, some table, some column⟩ (.primaryKey schema table column)

/-- **What a foreign-key record says.** -/
inductive ForeignKeyRecord.Says : ForeignKeyRecord → Row → Prop
  | foreignKey {schema table key targetSchema targetTable column : String} {position : Int32} :
      Says ⟨some schema, some table, some key, some targetSchema, some targetTable, some column,
          some position⟩
        (.foreignKey ⟨schema, table, key, targetSchema, targetTable, column, position⟩)

/-- **What an index record says.** The entry is a column just in case the record names one, and else
the expression, where a missing text is the empty one. -/
inductive IndexEntryRecord.Says : IndexEntryRecord → Row → Prop
  | column {schema table key name : String} {position : Int32} {expression : Option String} :
      Says ⟨some schema, some table, some key, some position, some name, expression⟩
        (.indexEntry ⟨schema, table, key, position, .column name⟩)
  | expression {schema table key text : String} {position : Int32} :
      Says ⟨some schema, some table, some key, some position, none, some text⟩
        (.indexEntry ⟨schema, table, key, position, .expression text⟩)
  | noText {schema table key : String} {position : Int32} :
      Says ⟨some schema, some table, some key, some position, none, none⟩
        (.indexEntry ⟨schema, table, key, position, .expression ""⟩)

/-- **What a database says:** the rows of all its records, set by set. -/
inductive Database.Says (db : Database) : List Row → Prop
  | rows {schemas tables columns primaryKeys foreignKeys indexEntries : List Row}
      (schema : List.Forall₂ SchemaRecord.Says db.schemas schemas)
      (table : List.Forall₂ TableRecord.Says db.tables tables)
      (column : List.Forall₂ ColumnRecord.Says db.columns columns)
      (primaryKey : List.Forall₂ PrimaryKeyRecord.Says db.primaryKeys primaryKeys)
      (foreignKey : List.Forall₂ ForeignKeyRecord.Says db.foreignKeys foreignKeys)
      (indexEntry : List.Forall₂ IndexEntryRecord.Says db.indexEntries indexEntries) :
      Says db (schemas ++ tables ++ columns ++ primaryKeys ++ foreignKeys ++ indexEntries)

/-- A field is taken with success just in case it has this value. -/
theorem nonNull_eq_ok {α : Type} {name : String} {value : Option α} {a : α} :
    nonNull name value = .ok a ↔ value = some a := by
  cases value with
  | none => exact iff_of_false (fun h => nomatch h) fun h => nomatch h
  | some b =>
    rw [nonNull, Option.some.injEq]
    exact ⟨Except.ok.inj, congrArg Except.ok⟩

section Rows

variable {row : Row}

/-- A schema record gives the row that it says. -/
theorem SchemaRecord.row_eq_ok {r : SchemaRecord} : r.row = .ok row ↔ r.Says row := by
  constructor
  · intro h
    obtain ⟨schemaName⟩ := r
    simp only [SchemaRecord.row, bind_eq_ok, nonNull_eq_ok] at h
    obtain ⟨schema, rfl, h⟩ := h
    obtain rfl := Except.ok.inj h
    exact .schema
  · rintro ⟨⟩
    rfl

/-- A table record gives the row that it says. -/
theorem TableRecord.row_eq_ok {r : TableRecord} : r.row = .ok row ↔ r.Says row := by
  constructor
  · intro h
    obtain ⟨schemaName, tableName⟩ := r
    simp only [TableRecord.row, bind_eq_ok, nonNull_eq_ok] at h
    obtain ⟨schema, rfl, table, rfl, h⟩ := h
    obtain rfl := Except.ok.inj h
    exact .table
  · rintro ⟨⟩
    rfl

/-- A column record gives the row that it says. -/
theorem ColumnRecord.row_eq_ok {r : ColumnRecord} : r.row = .ok row ↔ r.Says row := by
  constructor
  · intro h
    obtain ⟨schemaName, tableName, columnName, place, shortName, canonicalName, modifier, flag⟩ := r
    simp only [ColumnRecord.row, bind_eq_ok, nonNull_eq_ok] at h
    obtain ⟨short, rfl, canonical, rfl, typmod, rfl, schema, rfl, table, rfl, name, rfl, ordinal,
      rfl, notNull, rfl, h⟩ := h
    obtain rfl := Except.ok.inj h
    exact .column
  · rintro ⟨⟩
    rfl

/-- A primary-key record gives the row that it says. -/
theorem PrimaryKeyRecord.row_eq_ok {r : PrimaryKeyRecord} : r.row = .ok row ↔ r.Says row := by
  constructor
  · intro h
    obtain ⟨schemaName, tableName, columnName⟩ := r
    simp only [PrimaryKeyRecord.row, bind_eq_ok, nonNull_eq_ok] at h
    obtain ⟨schema, rfl, table, rfl, column, rfl, h⟩ := h
    obtain rfl := Except.ok.inj h
    exact .primaryKey
  · rintro ⟨⟩
    rfl

/-- A foreign-key record gives the row that it says. -/
theorem ForeignKeyRecord.row_eq_ok {r : ForeignKeyRecord} : r.row = .ok row ↔ r.Says row := by
  constructor
  · intro h
    obtain ⟨schemaName, tableName, keyName, schemaName', tableName', columnName, place⟩ := r
    simp only [ForeignKeyRecord.row, bind_eq_ok, nonNull_eq_ok] at h
    obtain ⟨schema, rfl, table, rfl, key, rfl, targetSchema, rfl, targetTable, rfl, column, rfl,
      position, rfl, h⟩ := h
    obtain rfl := Except.ok.inj h
    exact .foreignKey
  · rintro ⟨⟩
    rfl

/-- An index record gives the row that it says. -/
theorem IndexEntryRecord.row_eq_ok {r : IndexEntryRecord} : r.row = .ok row ↔ r.Says row := by
  constructor
  · intro h
    obtain ⟨schemaName, tableName, keyName, place, columnName, text?⟩ := r
    simp only [IndexEntryRecord.row, bind_eq_ok, nonNull_eq_ok] at h
    obtain ⟨schema, rfl, table, rfl, key, rfl, position, rfl, h⟩ := h
    obtain rfl := Except.ok.inj h
    -- The column decides which entry it is; without one, a missing expression is the empty text.
    cases columnName with
    | some name => exact .column
    | none =>
      cases text? with
      | some text => exact .expression
      | none => exact .noText
  · rintro (_ | _ | _) <;> rfl

end Rows

/-- An answer has one row for each record. -/
theorem Database.answer_eq_ok {α : Type} {db : Database} {set : RecordSet} {records : List α}
    {read : α → Except LoadError Row} {rel : α → Row → Prop}
    (h : ∀ {record row}, read record = .ok row ↔ rel record row) {rows : List Row} :
    db.answer set records read = .ok rows ↔
      db.refused ≠ some set ∧ List.Forall₂ rel records rows := by
  have hrel : (fun record row => read record = .ok row) = rel := by
    funext record row
    exact propext h
  unfold answer
  split
  · next hrefused => exact iff_of_false (fun hok => nomatch hok) fun hok => hok.1 hrefused
  · next hrefused => rw [mapM_eq_ok_iff, hrel, ne_eq, and_iff_right hrefused]

/-- **The rows that are read** are those that the records give, unless a query is refused. -/
theorem Database.rows_eq_ok_iff {db : Database} {rows : List Row} :
    db.rows = .ok rows ↔ db.refused = none ∧ db.Says rows := by
  constructor
  · intro h
    -- All six answers have succeeded, each with the rows of its records.
    simp only [Database.rows, bind_eq_ok, answer_eq_ok SchemaRecord.row_eq_ok,
      answer_eq_ok TableRecord.row_eq_ok, answer_eq_ok ColumnRecord.row_eq_ok,
      answer_eq_ok PrimaryKeyRecord.row_eq_ok, answer_eq_ok ForeignKeyRecord.row_eq_ok,
      answer_eq_ok IndexEntryRecord.row_eq_ok] at h
    obtain ⟨schemas, ⟨hs, hschemas⟩, tables, ⟨ht, htables⟩, columns, ⟨hc, hcolumns⟩, primaryKeys,
      ⟨hp, hprimaryKeys⟩, foreignKeys, ⟨hf, hforeignKeys⟩, indexEntries, ⟨hi, hindexEntries⟩,
      h⟩ := h
    obtain rfl := Except.ok.inj h
    refine ⟨?_, .rows hschemas htables hcolumns hprimaryKeys hforeignKeys hindexEntries⟩
    -- A refused set would be one of the six.
    cases hrefused : db.refused with
    | none => rfl
    | some set => cases set <;> contradiction
  · rintro ⟨hrefused, hrows⟩
    -- No query is refused, so the answers are given one after the other.
    have hnot : ∀ set, db.refused ≠ some set := by
      intro set
      rw [hrefused]
      exact fun h => nomatch h
    obtain ⟨hschemas, htables, hcolumns, hprimaryKeys, hforeignKeys, hindexEntries⟩ := hrows
    refine bind_eq_ok.2 ⟨_, (answer_eq_ok SchemaRecord.row_eq_ok).2 ⟨hnot _, hschemas⟩, ?_⟩
    refine bind_eq_ok.2 ⟨_, (answer_eq_ok TableRecord.row_eq_ok).2 ⟨hnot _, htables⟩, ?_⟩
    refine bind_eq_ok.2 ⟨_, (answer_eq_ok ColumnRecord.row_eq_ok).2 ⟨hnot _, hcolumns⟩, ?_⟩
    refine bind_eq_ok.2 ⟨_, (answer_eq_ok PrimaryKeyRecord.row_eq_ok).2 ⟨hnot _, hprimaryKeys⟩, ?_⟩
    refine bind_eq_ok.2 ⟨_, (answer_eq_ok ForeignKeyRecord.row_eq_ok).2 ⟨hnot _, hforeignKeys⟩, ?_⟩
    exact bind_eq_ok.2
      ⟨_, (answer_eq_ok IndexEntryRecord.row_eq_ok).2 ⟨hnot _, hindexEntries⟩, rfl⟩

end SchemaDiagram
