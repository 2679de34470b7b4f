import SchemaDiagram.Proofs.LoadedRows
import SchemaDiagram.Proofs.SnapshotRun

/-!
# Loaded catalogs

What comes of a database that is loaded, read off the records of the database.

* `Database.Fault`: a column that two records describe, or a foreign key with a column that no
  record describes;
* `loaded_catalogs_fail_by_database`: nothing else makes a loaded catalog invalid;
* `loading_reports_first_obstacle`: loading ends at the first obstacle, and without one it uses
  every record.
-/

namespace SchemaDiagram

/-! ### Faults of a database -/

/-- The record describes a column of this table and name. -/
def ColumnRecord.Describes (ref : TableRef) (name : String) (r : ColumnRecord) : Prop :=
  r.schemaName = some ref.schema ∧ r.tableName = some ref.table ∧ r.columnName = some name

instance (ref : TableRef) (name : String) (r : ColumnRecord) : Decidable (r.Describes ref name) :=
  inferInstanceAs (Decidable (_ ∧ _ ∧ _))

/-- The record describes a column of this foreign key. -/
def ForeignKeyRecord.Describes (key : KeyRef) (column : String) (r : ForeignKeyRecord) : Prop :=
  r.schemaName = some key.owner.schema ∧ r.tableName = some key.owner.table ∧
    r.foreignKey = some key.name ∧ r.columnName = some column

/-- **Fault** of a database, by the error that it causes. -/
inductive Database.Fault (db : Database) : CatalogError → Prop
  /-- Two records describe columns of one table and one name. -/
  | repeatedColumn (ref : TableRef) (name : String)
      (twice : 2 ≤ db.columns.countP fun r => decide (r.Describes ref name)) :
      Fault db (.duplicateColumn ref.table name)
  /-- A foreign key has a column that no record describes. -/
  | missingColumn (key : KeyRef) (column : String)
      (named : ∃ r ∈ db.foreignKeys, r.Describes key column)
      (missing : ∀ r ∈ db.columns, ¬r.Describes key.owner column) :
      Fault db (.unknownForeignKeyColumn key.owner.table key.name column)

namespace Database

variable {db : Database} {rows : List Row} {ref : TableRef} {name : String}

/-- A record describes the column that its row gives. -/
theorem describes_iff {record : ColumnRecord} {column : ColumnRow}
    (h : record.Says (.column column)) :
    record.Describes ref name ↔
      TableRef.mk column.schema column.table = ref ∧ column.name = name := by
  cases h
  cases ref
  simp [ColumnRecord.Describes, and_assoc]

theorem columnRows_eq_filter (rows : List Row) (ref : TableRef) :
    columnRows rows ref = (rows.filterMap Row.column?).filter fun column =>
      decide (TableRef.mk column.schema column.table = ref) := by
  rw [columnRows, rowsOf, List.filterMap_filter, List.filter_filterMap]
  refine List.filterMap_congr fun row _ => ?_
  -- A row of another kind has no column.
  cases row <;> simp [Row.column?, Row.owner?, Row.tableName?, Row.schemaName, Option.filter]

/-- A name is given to as many column rows of a table as records describe it. -/
theorem count_columnRows (h : db.Says rows) (ref : TableRef) (name : String) :
    ((columnRows rows ref).map (·.name)).count name =
      db.columns.countP fun r => decide (r.Describes ref name) := by
  have hrel := List.rel_filter (p := fun r => decide (r.Describes ref name))
    (q := fun column => decide (TableRef.mk column.schema column.table = ref ∧ column.name = name))
    -- Record by record: it is counted just in case its row is.
    (fun {record column} hrecord => by
      change decide (record.Describes ref name) = true ↔ decide (_ ∧ _) = true
      simp only [decide_eq_true_eq]
      exact describes_iff hrecord) h.columns
  -- Records that describe the column stand against rows that give it.
  rw [List.countP_eq_length_filter, hrel.length_eq, ← List.countP_eq_length_filter,
    columnRows_eq_filter, List.count, List.countP_map, List.countP_filter]
  refine List.countP_congr fun column _ => ?_
  simp [and_comm]

/-- A table has the columns that the records describe. -/
theorem hasColumn_iff (h : db.Says rows) :
    HasColumn rows ref name ↔ ∃ r ∈ db.columns, r.Describes ref name := by
  constructor
  · -- The row comes from some record.
    rintro ⟨column, hcolumn, howner, hname⟩
    have hmem : column ∈ rows.filterMap Row.column? := List.mem_filterMap.2 ⟨_, hcolumn, rfl⟩
    obtain ⟨record, hrecord, hrow⟩ := exists_related_of_mem_right h.columns hmem
    exact ⟨record, hrecord, (describes_iff hrow).2 ⟨Option.some.inj howner, hname⟩⟩
  · -- The record gives some row, which is a row of a column.
    rintro ⟨record, hrecord, hdescribes⟩
    obtain ⟨column, hcolumn, hrow⟩ := exists_related_of_mem h.columns hrecord
    obtain ⟨howner, hname⟩ := (describes_iff hrow).1 hdescribes
    obtain ⟨row, hmem, hcolumn⟩ := List.mem_filterMap.1 hcolumn
    obtain rfl := Row.column?_eq_some.1 hcolumn
    exact ⟨column, hmem, congrArg some howner, hname⟩

/-- **Flaws of loaded rows** are faults of the database. -/
theorem fault_of_flaw (h : db.rows = .ok rows) {e : CatalogError} (hflaw : Flaw rows e) :
    db.Fault e := by
  have hrows := (rows_eq_ok_iff.1 h).2
  cases hflaw with
  | repeatedColumn ref name twice =>
    -- The rows are counted as often as the records.
    rw [count_columnRows hrows] at twice
    exact .repeatedColumn ref name twice
  | unsoundColumn row mem precision type =>
    -- Type and precision of a loaded column agree.
    exact absurd (columnsSound h row mem precision) type
  | missingColumn key registered inner row mem describes missing =>
    have hkey : KeyRef.mk ⟨row.schema, row.table⟩ row.name = key := Option.some.inj describes
    subst hkey
    have hmem : row ∈ rows.filterMap Row.foreignKey? := List.mem_filterMap.2 ⟨_, mem, rfl⟩
    obtain ⟨record, hrecord, hrow⟩ := exists_related_of_mem_right hrows.foreignKeys hmem
    refine .missingColumn ⟨⟨row.schema, row.table⟩, row.name⟩ row.column ⟨record, hrecord, ?_⟩ ?_
    · -- The row of the key has its four names from the record.
      cases hrow
      exact ⟨rfl, rfl, rfl, rfl⟩
    · -- A record of the column would have given a row of it.
      intro r hr hdescribes
      exact missing ((hasColumn_iff hrows).2 ⟨r, hr, hdescribes⟩)

end Database

/-- **Validity of a loaded catalog** depends on nothing but the columns that the database describes
and the keys that name them. Validation succeeds or reports a repeated column or a missing column of
a key, and every violation of the catalog is a fault of its database. The types have no part in it:
a modifier gives a precision only to a type that carries one. -/
theorem loaded_catalogs_fail_by_database (db : Database) (rows : List Row)
    (h : db.rows = .ok rows) :
    ((Catalog.build rows).validate = .ok () ∨
      (∃ table column, (Catalog.build rows).validate = .error (.duplicateColumn table column)) ∨
      ∃ table key column,
        (Catalog.build rows).validate = .error (.unknownForeignKeyColumn table key column)) ∧
    (∀ e ∈ (Catalog.build rows).violations, db.Fault e) ∧
    ∀ short canonical,
      ((SqlType.resolve short canonical).hasPrecision ↔
        ∃ typmod, (precisionOf short typmod).isSome) ∧
      ((SqlType.resolve short canonical).implicitPrecision →
        (SqlType.resolve short canonical).hasPrecision) := by
  have hfault : ∀ e ∈ (Catalog.build rows).violations, db.Fault e :=
    fun e he => Database.fault_of_flaw h (flaw_of_mem he)
  refine ⟨?_, hfault, fun short canonical => ⟨hasPrecision_iff, implicitPrecision_hasPrecision⟩⟩
  cases hresult : (Catalog.build rows).validate with
  | ok => exact .inl rfl
  | error e =>
    -- The error is the first violation, and that is one of the two faults.
    cases hfault e (mem_of_firstError hresult) with
    | repeatedColumn ref name twice => exact .inr (.inl ⟨_, _, rfl⟩)
    | missingColumn key column named missing => exact .inr (.inr ⟨_, _, _, rfl⟩)

/-- The staff database without its record of the column that the key names. -/
def bossless : Database := { staffDatabase with columns := staffDatabase.columns.take 1 }

/-- The rows of that database. -/
def bosslessRows : List Row := staffRows.eraseIdx 3

/-- The missing record is what validation reports. -/
theorem loaded_catalogs_fail_by_database_bossless :
    bossless.rows = .ok bosslessRows ∧
    (Catalog.build bosslessRows).validate =
      .error (.unknownForeignKeyColumn "staff" "boss_key" "boss") := by
  have hrows : bossless.rows = .ok bosslessRows := rfl
  obtain ⟨hresult, hfault, -⟩ := loaded_catalogs_fail_by_database bossless bosslessRows hrows
  refine ⟨hrows, ?_⟩
  rcases hresult with hok | ⟨table, column, herror⟩ | ⟨table, key, column, herror⟩
  · -- The key stays in its schema, so a valid catalog would have its column.
    have hkeys := (build_valid_iff.1 (Catalog.validate_eq_ok.1 hok)).2.2
    obtain ⟨column, hcolumn, -, hname⟩ := hkeys ⟨⟨"public", "staff"⟩, "boss_key"⟩
      ⟨.table "public" "staff", by simp [bosslessRows, staffRows], rfl⟩ rfl
      ⟨"public", "staff", "boss_key", "public", "staff", "boss", 1⟩
      (by simp [bosslessRows, staffRows]) rfl
    simp [bosslessRows, staffRows] at hcolumn
    simp [hcolumn] at hname
  · -- One record describes a column, so none is repeated.
    have hrepeated := hfault _ (mem_of_firstError herror)
    generalize he : CatalogError.duplicateColumn table column = e at hrepeated
    cases hrepeated with
    | repeatedColumn ref name twice =>
      have hlength : 2 ≤ bossless.columns.length := Nat.le_trans twice List.countP_le_length
      exact absurd hlength (by decide)
    | missingColumn => cases he
  · -- The one key that is described has this name.
    have hmissing := hfault _ (mem_of_firstError herror)
    generalize he : CatalogError.unknownForeignKeyColumn table key column = e at hmissing
    cases hmissing with
    | repeatedColumn => cases he
    | missingColumn key column named missing =>
      obtain ⟨record, hrecord, -, htable, hkey, hcolumn⟩ := named
      obtain rfl := List.mem_singleton.1 hrecord
      rw [herror, he, ← Option.some.inj htable, ← Option.some.inj hkey, ← Option.some.inj hcolumn]

/-! ### Loading -/

/-- **First obstacle** of a database: a step meets it, and no step before it meets any. -/
def Database.FirstObstacle (db : Database) (e : LoadError) : Prop :=
  ∃ before step after, db.steps = before ++ step :: after ∧
    (∀ earlier ∈ before, db.obstacle? earlier = none) ∧ db.obstacle? step = some e

/-- **Loading** fails just in case a query is refused or a required field is null, and the error is
the first obstacle in reading order. It ends the loading without a trace. Else the loaded catalog is
the one that the rows of all records build, whatever comes before. -/
theorem loading_reports_first_obstacle (db : Database) :
    (IsError db.rows ↔ db.refused.isSome ∨
      ∃ set, ∃ fields ∈ db.required set, ∃ field ∈ fields, ¬field.given) ∧
    (∀ e, db.rows = .error e ↔ db.FirstObstacle e) ∧
    (∀ rows, db.rows = .ok rows ↔ db.refused = none ∧ db.Says rows) ∧
    ∀ (env : Environment) (settings : Settings) (connection : Connection),
      settings.connection = .ok connection → env.connect connection = .ok db →
        (∀ e, db.FirstObstacle e → ∀ journal,
          (loadCatalog env settings).result journal = (.error (.load e), journal)) ∧
        ∀ rows, db.refused = none → db.Says rows → ∀ journal,
          (loadCatalog env settings).result journal =
            (.ok (Catalog.build rows), journal.append ⟨[], buildWarnings rows⟩) := by
  have hobstacle : ∀ e, db.rows = .error e ↔ db.FirstObstacle e :=
    fun e => db.rows_failsAtFirst.eq_error_iff
  refine ⟨Database.isError_rows_iff, hobstacle, fun rows => Database.rows_eq_ok_iff, ?_⟩
  intro env settings connection hconnection hdatabase
  -- An error depends on the database alone, and the catalog on its rows.
  constructor
  · intro e he journal
    exact loadCatalog_result_error hconnection hdatabase ((hobstacle e).2 he) journal
  · intro rows hrefused hrows journal
    exact loadCatalog_result hconnection hdatabase (Database.rows_eq_ok_iff.2 ⟨hrefused, hrows⟩)
      journal

/-- The staff database, with a column that has no type modifier, where the last query is refused. -/
def unmodified : Database where
  schemas := staffDatabase.schemas
  tables := staffDatabase.tables
  columns := staffDatabase.columns.map fun record => { record with typmod := none }
  primaryKeys := staffDatabase.primaryKeys
  foreignKeys := staffDatabase.foreignKeys
  indexEntries := staffDatabase.indexEntries
  refused := some .indexEntries

/-- The null field comes before the refused query, and without both, all rows are used. -/
theorem loading_reports_first_obstacle_staff :
    ∃ settings connection,
      staffOptions.source.settings (FileTree.environment ⟨[], []⟩ fun _ => .ok staffDatabase)
        .empty = .ok settings ∧
      settings.connection = .ok connection ∧
      (loadCatalog (FileTree.environment ⟨[], []⟩ fun _ => .ok unmodified) settings).result
        .empty = (.error (.load (.unexpectedNull "typmod")), .empty) ∧
      (loadCatalog (FileTree.environment ⟨[], []⟩ fun _ => .ok staffDatabase) settings).result
        .empty = (.ok (Catalog.build staffRows), ⟨[], buildWarnings staffRows⟩) := by
  refine ⟨_, _, rfl, rfl, ?_, ?_⟩
  · obtain ⟨-, hobstacle, -, hload⟩ := loading_reports_first_obstacle unmodified
    exact (hload _ _ _ rfl rfl).1 _ ((hobstacle _).1 rfl) .empty
  · obtain ⟨-, -, hrows, hload⟩ := loading_reports_first_obstacle staffDatabase
    obtain ⟨hrefused, hsays⟩ := (hrows staffRows).1 rfl
    exact (hload _ _ _ rfl rfl).2 _ hrefused hsays .empty

end SchemaDiagram
