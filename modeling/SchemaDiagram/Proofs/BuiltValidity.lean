import SchemaDiagram.Proofs.BuiltCatalog
import SchemaDiagram.Proofs.Validity

/-!
# Validity of built catalogs

What can make a built catalog invalid is in its rows: two column rows of one name, a precision
on a type without one, an inner key whose rows name a column that its table lacks. The ends of
the relations are in order whatever the rows are (`RelationAt.reaches`, `RelationAt.holds_iff`).

* `HasColumn`: a table has a column if one of its rows says so;
* `ColumnsDistinct`, `ColumnsSound`, `InnerKeyColumnsGiven`: what is asked of the rows;
* `build_valid_iff`: it is asked, and it is enough;
* `Flaw`: the errors that rows can cause, each with the rows that cause it; `flaw_of_mem` says
  that a built catalog violates nothing else.
-/

namespace SchemaDiagram

variable {rows : List Row} {ref : TableRef} {relation : Relation}

/-! ### Columns of a built table -/

/-- **Has a column.** One of the rows of the table gives it a column of this name. -/
def HasColumn (rows : List Row) (ref : TableRef) (name : String) : Prop :=
  ∃ column, Row.column column ∈ rows ∧ (Row.column column).owner? = some ref ∧ column.name = name

/-- The rows of the columns of a table. -/
def columnRows (rows : List Row) (ref : TableRef) : List ColumnRow :=
  (rowsOf rows ref).filterMap Row.column?

/-- Only column rows are taken as such, and each as it is. -/
theorem Row.column?_eq_some {row : Row} {column : ColumnRow} :
    row.column? = some column ↔ row = .column column := by
  cases row <;> simp [Row.column?]

/-- The column rows of a table are the column rows that it owns. -/
theorem mem_columnRows {column : ColumnRow} :
    column ∈ columnRows rows ref ↔
      Row.column column ∈ rows ∧ (Row.column column).owner? = some ref := by
  simp only [columnRows, rowsOf, List.mem_filterMap, List.mem_filter, decide_eq_true_eq,
    Row.column?_eq_some]
  constructor
  · rintro ⟨row, h, rfl⟩
    exact h
  · intro h
    exact ⟨_, h, rfl⟩

/-- The columns have the names of the column rows, but for the order. -/
theorem builtTable_columns_perm (rows : List Row) (ref : TableRef) :
    ((builtTable rows ref).columns.map (·.name)).Perm ((columnRows rows ref).map (·.name)) := by
  rw [builtTable_columns, columnsOf, List.map_map]
  exact (List.mergeSort_perm _ _).map _

/-- A built table has the columns that its rows give it. -/
theorem mem_builtTable_columns {name : String} :
    name ∈ (builtTable rows ref).columns.map (·.name) ↔ HasColumn rows ref name := by
  rw [(builtTable_columns_perm rows ref).mem_iff, List.mem_map]
  simp only [mem_columnRows, HasColumn, and_assoc]

/-- Every column has the name, the type and the precision of a column row of its table. -/
theorem builtTable_column {column : Column} (h : column ∈ (builtTable rows ref).columns) :
    ∃ row ∈ columnRows rows ref, column.name = row.name ∧ column.type = row.type ∧
      column.precision = row.precision := by
  rw [builtTable_columns, columnsOf, List.mem_map] at h
  obtain ⟨row, hrow, rfl⟩ := h
  have hrow : row ∈ columnRows rows ref := (List.mergeSort_perm _ _).mem_iff.1 hrow
  exact ⟨row, hrow, rfl, rfl, rfl⟩

/-- Every column row of a table gives it a column. -/
theorem exists_builtTable_column {row : ColumnRow} (h : row ∈ columnRows rows ref) :
    ∃ column ∈ (builtTable rows ref).columns,
      column.type = row.type ∧ column.precision = row.precision := by
  have hsorted := (List.mergeSort_perm (columnRows rows ref)
    fun a b => decide (a.ordinal ≤ b.ordinal)).mem_iff.2 h
  rw [builtTable_columns, columnsOf]
  exact ⟨_, List.mem_map_of_mem hsorted, rfl, rfl⟩

/-- A table that is not registered has no column rows. -/
theorem columnRows_eq_nil (h : ¬Registered rows ref) : columnRows rows ref = [] := by
  refine List.eq_nil_iff_forall_not_mem.2 fun row hrow => h ?_
  obtain ⟨hmem, howner⟩ := mem_columnRows.1 hrow
  exact ⟨_, hmem, howner⟩

/-! ### Columns of a key -/

/-- The columns of a key are those that its rows name. -/
theorem KeyRef.mem_columns {key : KeyRef} {column : String} :
    column ∈ (key.foreignKey rows).columns ↔
      ∃ row, Row.foreignKey row ∈ rows ∧ (Row.foreignKey row).key? = some key ∧
        row.column = column := by
  simp only [foreignKey_eq, List.mem_map, List.mem_mergeSort, mem_sources, and_assoc]

/-! ### Relations of a built table -/

namespace RelationAt

/-- The key of a relation that stays in its schema is an inner key: it belongs to a table of the
schema, the one that counts as its owner, and leads to a table of the schema. -/
theorem key (h : RelationAt rows ref relation) (hlocal : relation.targetSchema = none) :
    ∃ key : KeyRef, key.Kept rows ∧ relation.foreignKey = key.foreignKey rows ∧
      key.owner = ⟨ref.schema, relation.keyOwner⟩ ∧
      (key.target rows).schema = key.owner.schema := by
  cases h with
  -- Unless both tables lie in one schema, the relation would name the other one.
  | manyToOne key kept owner =>
    subst owner
    have hschema : (key.target rows).schema = key.owner.schema := by
      by_contra hne
      exact absurd hlocal (by simp [KeyRef.manyToOne, Ne.symm hne])
    exact ⟨key, kept, rfl, rfl, hschema⟩
  | oneToMany key kept target =>
    subst target
    -- The key belongs to the target of the relation, whose schema is not named.
    have hschema : (key.target rows).schema = key.owner.schema := by
      by_contra hne
      exact absurd hlocal (by simp [KeyRef.oneToMany, hne])
    refine ⟨key, kept, rfl, ?_, hschema⟩
    rw [hschema]
    rfl
  | manyToMany near far kept _ _ _ schema _ target =>
    refine ⟨near, kept, rfl, ?_, ?_⟩
    · rw [← schema]
      rfl
    · rw [target, schema]

/-- The owner of the key is registered. -/
theorem keyOwner_registered (h : RelationAt rows ref relation)
    (hlocal : relation.targetSchema = none) : Registered rows ⟨ref.schema, relation.keyOwner⟩ := by
  obtain ⟨key, kept, -, howner, -⟩ := h.key hlocal
  rw [← howner]
  exact kept.1.registered

/-- **A relation that stays in its schema** holds just in case the owner of its key has the
columns of the key. -/
theorem holds_iff (h : RelationAt rows ref relation) (href : Registered rows ref)
    (hlocal : relation.targetSchema = none) :
    (builtSchema rows ref.schema).Holds relation ↔
      ∀ column ∈ relation.foreignKey.columns,
        HasColumn rows ⟨ref.schema, relation.keyOwner⟩ column := by
  -- The owner is found, so the rule is about its columns alone.
  have howner := builtSchema_table? (h.keyOwner_registered hlocal)
  constructor
  · rintro ⟨-, -, owner, hfound, hcolumns⟩ column hcolumn
    obtain rfl : builtTable rows ⟨ref.schema, relation.keyOwner⟩ = owner :=
      Option.some.inj (howner.symm.trans hfound)
    exact mem_builtTable_columns.1 (hcolumns column hcolumn)
  · -- Source and target are registered, so only the columns had to be assumed.
    intro hcolumns
    refine ⟨?_, ?_, _, howner, fun column hcolumn =>
      mem_builtTable_columns.2 (hcolumns column hcolumn)⟩
    · rw [builtSchema_tableNames, h.sourceTable]
      exact mem_tableNames.2 href
    · have htarget := h.target_registered
      rw [hlocal, Option.getD_none] at htarget
      rw [builtSchema_tableNames]
      exact mem_tableNames.2 htarget

/-- **A relation that leads into another schema** reaches it. -/
theorem reaches (h : RelationAt rows ref relation) (href : Registered rows ref) {target : String}
    (htarget : relation.targetSchema = some target) :
    (Catalog.build rows).Reaches (builtSchema rows ref.schema) relation target := by
  have hregistered := h.target_registered
  rw [htarget, Option.getD_some] at hregistered
  refine ⟨?_, builtSchema rows target, build_schema? hregistered.mentioned, ?_⟩
  · rw [builtSchema_tableNames, h.sourceTable]
    exact mem_tableNames.2 href
  · rw [builtSchema_tableNames]
    exact mem_tableNames.2 hregistered

end RelationAt

/-! ### The catalog -/

/-- No table has two column rows of the same name. -/
def ColumnsDistinct (rows : List Row) : Prop :=
  ∀ ref, ((columnRows rows ref).map (·.name)).Nodup

/-- Precisions come only with types that carry one. -/
def ColumnsSound (rows : List Row) : Prop :=
  ∀ column, Row.column column ∈ rows → column.precision.isSome → column.type.hasPrecision

/-- Every row of a foreign key names a column of its own table. -/
def KeyColumnsGiven (rows : List Row) : Prop :=
  ∀ row, Row.foreignKey row ∈ rows → HasColumn rows ⟨row.schema, row.table⟩ row.column

/-- Every row of an inner key names a column of its own table. A key is inner if it leads to a
registered table of its own schema. -/
def InnerKeyColumnsGiven (rows : List Row) : Prop :=
  ∀ key : KeyRef, Registered rows (key.target rows) →
    (key.target rows).schema = key.owner.schema →
    ∀ row, Row.foreignKey row ∈ rows → (Row.foreignKey row).key? = some key →
      HasColumn rows key.owner row.column

/-- A row of a key is a row of the table that holds the key. -/
theorem KeyRef.owner_of_row {key : KeyRef} {row : ForeignKeyRow}
    (h : (Row.foreignKey row).key? = some key) : TableRef.mk row.schema row.table = key.owner :=
  Option.some.inj (Row.key?_eq_some.1 h).1

/-- If all keys have their columns, the inner ones do. -/
theorem KeyColumnsGiven.inner (h : KeyColumnsGiven rows) : InnerKeyColumnsGiven rows := by
  intro key _ _ row hrow hkey
  rw [← KeyRef.owner_of_row hkey]
  exact h row hrow

/-- A valid catalog asks for distinct column names, also where a table has no rows at all. -/
theorem columnsDistinct_of_valid (h : (Catalog.build rows).Valid) : ColumnsDistinct rows := by
  intro ref
  by_cases href : Registered rows ref
  · have hschema := mem_build_schemas.2 ⟨ref.schema, href.mentioned, rfl⟩
    have htable := mem_builtSchema_tables.2 ⟨ref.table, href, rfl⟩
    have hnodup := ((h _ hschema).2 _ htable).1
    exact (builtTable_columns_perm rows ref).nodup_iff.1 hnodup
  · rw [columnRows_eq_nil href]
    exact List.nodup_nil

/-- A valid catalog asks for sound precisions, of every column row. -/
theorem columnsSound_of_valid (h : (Catalog.build rows).Valid) : ColumnsSound rows := by
  intro row hrow hprecision
  have hmem : row ∈ columnRows rows ⟨row.schema, row.table⟩ := mem_columnRows.2 ⟨hrow, rfl⟩
  have href : Registered rows ⟨row.schema, row.table⟩ := ⟨_, hrow, rfl⟩
  obtain ⟨column, hcolumn, htype, hcolumnPrecision⟩ := exists_builtTable_column hmem
  have hschema := mem_build_schemas.2 ⟨row.schema, href.mentioned, rfl⟩
  have htable := mem_builtSchema_tables.2 ⟨row.table, href, rfl⟩
  have hsound := ((h _ hschema).2 _ htable).2.1 column hcolumn
  rw [Column.Sound, htype, hcolumnPrecision] at hsound
  exact hsound hprecision

/-- A valid catalog asks inner keys for columns that their table has. -/
theorem innerKeyColumnsGiven_of_valid (h : (Catalog.build rows).Valid) :
    InnerKeyColumnsGiven rows := by
  intro key htarget hinner row hrow hkey
  have hkept : key.Kept rows := ⟨⟨_, hrow, hkey⟩, htarget⟩
  have howner : Registered rows key.owner := hkept.1.registered
  have hschema := mem_build_schemas.2 ⟨key.owner.schema, howner.mentioned, rfl⟩
  have htable := mem_builtSchema_tables.2 ⟨key.owner.table, howner, rfl⟩
  -- The rule is checked at the many-to-one relation, which starts at the table of the key.
  have hrelation := manyToOne_mem hkept
  have hstays : (key.manyToOne rows).targetSchema = none := if_pos hinner.symm
  have hholds := (((h _ hschema).2 _ htable).2.2 _ hrelation).1 hstays
  have hcolumns := ((relationAt_of_mem hrelation).holds_iff howner hstays).1 hholds
  exact hcolumns row.column (KeyRef.mem_columns.2 ⟨row, hrow, hkey, rfl⟩)

/-- **Validity of a built catalog.** -/
theorem build_valid_iff : (Catalog.build rows).Valid ↔
    ColumnsDistinct rows ∧ ColumnsSound rows ∧ InnerKeyColumnsGiven rows := by
  constructor
  · intro h
    exact ⟨columnsDistinct_of_valid h, columnsSound_of_valid h, innerKeyColumnsGiven_of_valid h⟩
  · -- The three conditions on the rows settle the checks of one schema after the other.
    rintro ⟨hdistinct, hsound, hkeys⟩ schema hschema
    obtain ⟨name, -, rfl⟩ := mem_build_schemas.1 hschema
    refine ⟨?_, fun table htable => ?_⟩
    · rw [builtSchema_tableNames]
      exact tableNames_nodup rows name
    · obtain ⟨t, ht, rfl⟩ := mem_builtSchema_tables.1 htable
      refine ⟨?_, fun column hcolumn => ?_, fun relation hrelation => ?_⟩
      · exact (builtTable_columns_perm rows _).nodup_iff.2 (hdistinct _)
      · obtain ⟨row, hrow, -, htype, hprecision⟩ := builtTable_column hcolumn
        rw [Column.Sound, htype, hprecision]
        exact hsound row (mem_columnRows.1 hrow).1
      · have hat := relationAt_of_mem hrelation
        refine ⟨fun hlocal => (hat.holds_iff ht hlocal).2 fun column hcolumn => ?_,
          fun target htarget => hat.reaches ht htarget⟩
        -- The column stands in a row of the key, which is on the table of the key.
        obtain ⟨key, hkept, hkey, howner, hinner⟩ := hat.key hlocal
        rw [hkey] at hcolumn
        obtain ⟨row, hrow, hrowkey, rfl⟩ := KeyRef.mem_columns.1 hcolumn
        rw [← howner]
        exact hkeys key hkept.2 hinner row hrow hrowkey

/-- It is enough that every key has its columns, whether it is an inner one or not. -/
theorem build_valid (hdistinct : ColumnsDistinct rows) (hsound : ColumnsSound rows)
    (hkeys : KeyColumnsGiven rows) : (Catalog.build rows).Valid :=
  build_valid_iff.2 ⟨hdistinct, hsound, hkeys.inner⟩

/-! ### Errors -/

/-- **Flaw** of some rows, by the error that it causes. -/
inductive Flaw (rows : List Row) : CatalogError → Prop
  /-- Two column rows of a table have the same name. -/
  | repeatedColumn (ref : TableRef) (name : String)
      (twice : 2 ≤ ((columnRows rows ref).map (·.name)).count name) :
      Flaw rows (.duplicateColumn ref.table name)
  /-- A column row has a precision on a type that carries none. -/
  | unsoundColumn (row : ColumnRow) (mem : Row.column row ∈ rows)
      (precision : row.precision.isSome) (type : ¬row.type.hasPrecision) :
      Flaw rows (.unexpectedPrecision row.table row.name row.type.name)
  /-- A row of an inner key names a column that no row gives to the table of the key. -/
  | missingColumn (key : KeyRef) (registered : Registered rows (key.target rows))
      (inner : (key.target rows).schema = key.owner.schema) (row : ForeignKeyRow)
      (mem : Row.foreignKey row ∈ rows) (describes : (Row.foreignKey row).key? = some key)
      (missing : ¬HasColumn rows key.owner row.column) :
      Flaw rows (.unknownForeignKeyColumn key.owner.table key.name row.column)

/-- What is wrong with the columns of a built table is a flaw of its rows. -/
theorem flaw_of_mem_columns {e : CatalogError}
    (h : e ∈ columnViolations ref.table [] (builtTable rows ref).columns) : Flaw rows e := by
  -- The columns are the column rows in another order, so both kinds of violations show there.
  rcases mem_columnViolations h with ⟨name, htwice, rfl⟩ | ⟨column, hcolumn, hsound, rfl⟩
  · rw [List.nil_append, (builtTable_columns_perm rows ref).count_eq] at htwice
    exact .repeatedColumn ref name htwice
  · obtain ⟨row, hrow, hname, htype, hprecision⟩ := builtTable_column hcolumn
    obtain ⟨hmem, howner⟩ := mem_columnRows.1 hrow
    rw [Column.Sound, htype, hprecision, Classical.not_imp] at hsound
    obtain rfl : TableRef.mk row.schema row.table = ref := Option.some.inj howner
    rw [hname, htype]
    exact .unsoundColumn row hmem hsound.1 hsound.2

/-- A violation on a relation that stays in its schema is a flaw of the rows of an inner key. -/
theorem RelationAt.flaw_of_mem (h : RelationAt rows ref relation) (href : Registered rows ref)
    (hlocal : relation.targetSchema = none) {e : CatalogError}
    (he : e ∈ (builtSchema rows ref.schema).localViolations ref.table relation) : Flaw rows e := by
  have howner := builtSchema_table? (h.keyOwner_registered hlocal)
  have hsource : relation.sourceTable ∈ (builtSchema rows ref.schema).tableNames := by
    rw [builtSchema_tableNames, h.sourceTable]
    exact mem_tableNames.2 href
  have htarget : relation.targetTable ∈ (builtSchema rows ref.schema).tableNames := by
    have htarget := h.target_registered
    rw [hlocal, Option.getD_none] at htarget
    rw [builtSchema_tableNames]
    exact mem_tableNames.2 htarget
  -- So what is missing can only be a column of the key.
  obtain ⟨column, hcolumn, hmissing, rfl⟩ := Schema.mem_localViolations hsource htarget howner he
  obtain ⟨key, hkept, hkey, hkeyOwner, hinner⟩ := h.key hlocal
  rw [mem_builtTable_columns, ← hkeyOwner] at hmissing
  rw [hkey] at hcolumn ⊢
  obtain ⟨row, hrow, hdescribes, rfl⟩ := KeyRef.mem_columns.1 hcolumn
  have htable : relation.keyOwner = key.owner.table := (congrArg TableRef.table hkeyOwner).symm
  rw [htable]
  exact .missingColumn key hkept.2 hinner row hrow hdescribes hmissing

/-- **A built catalog violates nothing but what its rows violate.** -/
theorem flaw_of_mem {e : CatalogError} (h : e ∈ (Catalog.build rows).violations) :
    Flaw rows e := by
  -- By the place of the violation: names, columns, relations inside and across schemas.
  cases Catalog.violatedAt_of_mem h with
  | tableNames schema mem repeated =>
    -- Tables are named once each, since names are sorted without repetitions.
    obtain ⟨name, -, rfl⟩ := mem_build_schemas.1 mem
    rw [builtSchema_tableNames] at repeated
    exact absurd (tableNames_nodup rows name) repeated
  | columns schema mem table memTable violation =>
    obtain ⟨name, -, rfl⟩ := mem_build_schemas.1 mem
    obtain ⟨t, -, rfl⟩ := mem_builtSchema_tables.1 memTable
    have hcolumns : e ∈ columnViolations (TableRef.mk name t).table []
        (builtTable rows ⟨name, t⟩).columns := violation
    exact flaw_of_mem_columns hcolumns
  | inside schema mem table memTable relation memRelation stays violation =>
    obtain ⟨name, -, rfl⟩ := mem_build_schemas.1 mem
    obtain ⟨t, ht, rfl⟩ := mem_builtSchema_tables.1 memTable
    exact (relationAt_of_mem memRelation).flaw_of_mem ht stays violation
  | across schema mem table memTable relation memRelation violation =>
    -- A relation that leads into another schema reaches it.
    obtain ⟨name, -, rfl⟩ := mem_build_schemas.1 mem
    obtain ⟨t, ht, rfl⟩ := mem_builtSchema_tables.1 memTable
    have hnone : (Catalog.build rows).crossViolations (builtSchema rows name) t relation = [] :=
      Catalog.crossViolations_eq_nil.2 fun target htarget =>
        (relationAt_of_mem memRelation).reaches ht htarget
    rw [builtTable_name, hnone] at violation
    exact absurd violation List.not_mem_nil

/-- **Exact validity of built catalogs.** Validation accepts a built catalog if and only if the
column names of each table are distinct, precisions come only with types that carry one, and the
rows of each inner key name columns of its table. Whatever it violates is a flaw of this kind,
found in the rows: no table is named twice, and no source, target, join table or target schema
is missing. -/
theorem build_validate_exact (rows : List Row) :
    ((Catalog.build rows).validate = .ok () ↔
      ColumnsDistinct rows ∧ ColumnsSound rows ∧ InnerKeyColumnsGiven rows) ∧
    (∀ e ∈ (Catalog.build rows).violations, Flaw rows e) ∧
    ∀ e, (Catalog.build rows).validate = .error e → Flaw rows e := by
  refine ⟨Catalog.validate_eq_ok.trans build_valid_iff, fun e he => flaw_of_mem he,
    fun e he => flaw_of_mem (mem_of_firstError he)⟩

/-- Rows with two keys whose columns are not given, one within its schema and one across. -/
def danglingRows : List Row :=
  [.foreignKey ⟨"public", "staff", "badge_key", "security", "badges", "badge", 1⟩,
    .foreignKey ⟨"public", "staff", "boss_key", "public", "staff", "boss", 1⟩,
    .table "security" "badges"]

/-- The key within the schema is a flaw, so validation fails with an error for a flaw. -/
theorem build_validate_exact_dangling :
    ¬InnerKeyColumnsGiven danglingRows ∧
    ∃ e, (Catalog.build danglingRows).validate = .error e ∧ Flaw danglingRows e := by
  obtain ⟨hvalid, -, herror⟩ := build_validate_exact danglingRows
  -- No row gives the boss a column.
  have hkeys : ¬InnerKeyColumnsGiven danglingRows := by
    intro hkeys
    have hgiven := hkeys ⟨⟨"public", "staff"⟩, "boss_key"⟩ (by decide) (by decide)
      ⟨"public", "staff", "boss_key", "public", "staff", "boss", 1⟩ (by simp [danglingRows]) rfl
    obtain ⟨row, hrow, -⟩ := hgiven
    simp [danglingRows] at hrow
  cases hresult : (Catalog.build danglingRows).validate with
  | ok => exact absurd (hvalid.1 hresult).2.2 hkeys
  | error e => exact ⟨hkeys, e, rfl, herror e hresult⟩

end SchemaDiagram
