import SchemaDiagram.Catalog.Validity

/-!
# What valid catalogs satisfy

Validation lists violations and reports the first one. Here the rules are said without such
lists: `Schema.Holds` for a relation that stays in its schema, `Catalog.Reaches` for one that
leads into another schema, `Column.Sound` for a column. `Catalog.validate_eq_ok` puts them
together; the lemmas before it treat one list of violations each.

A violation is also taken back to its place: `Catalog.ViolatedAt` has a case for each of the four
lists of which the violations of a catalog consist, and `mem_columnViolations` and
`Schema.mem_localViolations` say what the entries of two of them report.
-/

namespace SchemaDiagram

theorem firstError_eq_ok {ε : Type} {errors : List ε} :
    firstError errors = .ok () ↔ errors = [] := by
  cases errors with
  | nil => exact iff_of_true rfl rfl
  | cons e errors => exact iff_of_false (fun h => nomatch h) (List.cons_ne_nil e errors)

theorem repeats_eq_nil {seen names : List String} :
    repeats seen names = [] ↔ names.Nodup ∧ ∀ name ∈ names, name ∉ seen := by
  -- The induction is on the names still to be checked; those before them are in `seen`.
  induction names generalizing seen with
  | nil => exact iff_of_true rfl ⟨List.nodup_nil, fun _ h => absurd h List.not_mem_nil⟩
  | cons name names ih =>
    rw [repeats, List.nodup_cons, List.forall_mem_cons]
    by_cases hseen : name ∈ seen
    · rw [if_pos hseen]
      exact iff_of_false (List.cons_ne_nil _ _) fun h => h.2.1 hseen
    · rw [if_neg hseen, ih]
      simp only [List.mem_cons, not_or]
      constructor
      · rintro ⟨hnodup, hnew⟩
        -- A later name is not this one, so it is new just in case it is new without it.
        exact ⟨⟨fun hmem => (hnew name hmem).1 rfl, hnodup⟩, hseen, fun n hn => (hnew n hn).2⟩
      · rintro ⟨⟨hname, hnodup⟩, -, hnew⟩
        exact ⟨hnodup, fun n hn => ⟨fun heq => hname (heq ▸ hn), hnew n hn⟩⟩

/-! ### Columns -/

/-- **Sound column:** only a type that carries a precision comes with one. -/
def Column.Sound (column : Column) : Prop := column.precision.isSome → column.type.hasPrecision

theorem columnViolations_eq_nil {table : String} {seen : List String} {columns : List Column} :
    columnViolations table seen columns = [] ↔
      ((columns.map (·.name)).Nodup ∧ ∀ column ∈ columns, column.name ∉ seen) ∧
        ∀ column ∈ columns, column.Sound := by
  induction columns generalizing seen with
  | nil => simp [columnViolations]
  | cons column columns ih =>
    -- Each of the two conditions on the first column is a list of one violation at most.
    have hrepeated : (if column.name ∈ seen then [CatalogError.duplicateColumn table column.name]
        else []) = [] ↔ column.name ∉ seen := by
      split <;> simp_all
    have hprecision : (if column.precision.isSome ∧ ¬column.type.hasPrecision then
        [CatalogError.unexpectedPrecision table column.name column.type.name] else []) = [] ↔
          column.Sound := by
      rw [Column.Sound]
      split <;> simp_all
    -- The name of the first column is among the names seen when the others are checked.
    rw [columnViolations, List.append_eq_nil_iff, List.append_eq_nil_iff, hrepeated, hprecision, ih,
      List.map_cons, List.nodup_cons, List.forall_mem_cons, List.forall_mem_cons]
    simp only [List.mem_cons, not_or, List.mem_map, not_exists, not_and]
    constructor
    · rintro ⟨⟨hseen, hsound⟩, ⟨hnodup, hnew⟩, hothers⟩
      exact ⟨⟨⟨fun c hc => (hnew c hc).1, hnodup⟩, hseen, fun c hc => (hnew c hc).2⟩, hsound,
        hothers⟩
    · rintro ⟨⟨⟨hname, hnodup⟩, hseen, hnew⟩, hsound, hothers⟩
      exact ⟨⟨hseen, hsound⟩, ⟨hnodup, fun c hc => ⟨hname c hc, hnew c hc⟩⟩, hothers⟩

/-! ### Relations -/

theorem Schema.table?_isSome {schema : Schema} {name : String} :
    (schema.table? name).isSome ↔ name ∈ schema.tableNames := by
  simp [Schema.table?, Schema.tableNames, List.find?_isSome]

theorem Table.column?_isSome {table : Table} {name : String} :
    (table.column? name).isSome ↔ name ∈ table.columns.map (·.name) := by
  simp [Table.column?, List.find?_isSome]

/-- **A relation that stays in its schema** holds if its ends are tables of the schema and the
columns of its key are on the table that owns the key. -/
structure Schema.Holds (schema : Schema) (relation : Relation) : Prop where
  source : relation.sourceTable ∈ schema.tableNames
  target : relation.targetTable ∈ schema.tableNames
  key : ∃ owner, schema.table? relation.keyOwner = some owner ∧
    ∀ column ∈ relation.foreignKey.columns, column ∈ owner.columns.map (·.name)

theorem Schema.localViolations_eq_nil {schema : Schema} {table : String} {relation : Relation} :
    schema.localViolations table relation = [] ↔ schema.Holds relation := by
  -- A missing end is reported for each of the two tables that is not found.
  have hends : (([relation.sourceTable, relation.targetTable].filter
      fun name => decide (name ∉ schema.tableNames)).map
        (CatalogError.unknownRelationTable table ·)) = [] ↔
      relation.sourceTable ∈ schema.tableNames ∧ relation.targetTable ∈ schema.tableNames := by
    rw [List.map_eq_nil_iff, List.filter_eq_nil_iff]
    simp
  rw [Schema.localViolations, List.append_eq_nil_iff, hends]
  -- A key whose owner is not found is a violation of its own.
  cases hown : schema.table? relation.keyOwner with
  | none =>
    refine iff_of_false (fun h => List.cons_ne_nil _ _ h.2) fun h => ?_
    obtain ⟨owner, howner, -⟩ := h.key
    exact absurd (hown.symm.trans howner) (by simp)
  | some owner =>
    have hkey : ((relation.foreignKey.columns.filter fun column =>
        (owner.column? column).isNone).map
          (CatalogError.unknownForeignKeyColumn relation.keyOwner relation.foreignKey.name ·)) =
            [] ↔
        ∀ column ∈ relation.foreignKey.columns, column ∈ owner.columns.map (·.name) := by
      rw [List.map_eq_nil_iff, List.filter_eq_nil_iff]
      refine forall₂_congr fun column _ => ?_
      rw [← Table.column?_isSome]
      -- The column is missing just in case the lookup finds none.
      cases owner.column? column <;> simp
    dsimp only
    rw [hkey]
    constructor
    · rintro ⟨⟨hsource, htarget⟩, hcolumns⟩
      exact ⟨hsource, htarget, owner, hown, hcolumns⟩
    · rintro ⟨hsource, htarget, owner', howner', hcolumns⟩
      obtain rfl : owner = owner' := Option.some.inj (hown.symm.trans howner')
      exact ⟨⟨hsource, htarget⟩, hcolumns⟩

/-- **A relation that names a target schema** reaches it if its source is a table of its own
schema and its target one of the first schema of that name. -/
def Catalog.Reaches (catalog : Catalog) (schema : Schema) (relation : Relation)
    (target : String) : Prop :=
  relation.sourceTable ∈ schema.tableNames ∧
    ∃ other, catalog.schema? target = some other ∧ relation.targetTable ∈ other.tableNames

theorem Catalog.crossViolations_eq_nil {catalog : Catalog} {schema : Schema} {table : String}
    {relation : Relation} :
    catalog.crossViolations schema table relation = [] ↔
      ∀ target, relation.targetSchema = some target → catalog.Reaches schema relation target := by
  unfold Catalog.crossViolations
  cases htarget : relation.targetSchema with
  | none => simp
  | some target =>
    -- Both lookups, that of the schema and that of the table in it, have to succeed.
    have hfound : ((catalog.schema? target).bind (·.table? relation.targetTable)).isNone = false ↔
        ∃ other, catalog.schema? target = some other ∧ relation.targetTable ∈ other.tableNames := by
      rw [Option.isNone_eq_false_iff]
      cases hother : catalog.schema? target with
      | none => simp
      | some other => simp [Schema.table?_isSome]
    have hsource : (schema.table? relation.sourceTable).isNone = false ↔
        relation.sourceTable ∈ schema.tableNames := by
      rw [Option.isNone_eq_false_iff, Schema.table?_isSome]
    have hreaches : (∀ t, some target = some t → catalog.Reaches schema relation t) ↔
        catalog.Reaches schema relation target := by
      simp only [Option.some.injEq, forall_eq']
    dsimp only
    rw [hreaches, Catalog.Reaches, ite_eq_right_iff, ← hfound, ← hsource]
    simp only [reduceCtorEq, imp_false, not_or, Bool.not_eq_true, and_comm]

/-! ### Catalogs -/

/-- **What validity says** of a catalog: the rules on table names, columns and relations hold at
every table of every schema. -/
def Catalog.Valid (catalog : Catalog) : Prop :=
  ∀ schema ∈ catalog.schemas, schema.tableNames.Nodup ∧ ∀ table ∈ schema.tables,
    (table.columns.map (·.name)).Nodup ∧ (∀ column ∈ table.columns, column.Sound) ∧
    ∀ relation ∈ table.relations, (relation.targetSchema = none → schema.Holds relation) ∧
      ∀ target, relation.targetSchema = some target → catalog.Reaches schema relation target

theorem Schema.tableViolations_eq_nil {schema : Schema} {table : Table} :
    schema.tableViolations table = [] ↔
      (table.columns.map (·.name)).Nodup ∧ (∀ column ∈ table.columns, column.Sound) ∧
        ∀ relation ∈ table.relations, relation.targetSchema = none → schema.Holds relation := by
  rw [Schema.tableViolations, List.append_eq_nil_iff, columnViolations_eq_nil,
    List.flatMap_eq_nil_iff]
  -- Nothing has been seen before the first column.
  simp only [List.not_mem_nil, not_false_eq_true, implies_true, and_true, List.mem_filter,
    Option.isNone_iff_eq_none, and_imp, Schema.localViolations_eq_nil, and_assoc]

theorem Schema.violations_eq_nil {schema : Schema} :
    schema.violations = [] ↔ schema.tableNames.Nodup ∧ ∀ table ∈ schema.tables,
      schema.tableViolations table = [] := by
  rw [Schema.violations, List.append_eq_nil_iff, List.map_eq_nil_iff, repeats_eq_nil,
    List.flatMap_eq_nil_iff]
  simp only [List.not_mem_nil, not_false_eq_true, implies_true, and_true]

/-- **Validation** accepts just the valid catalogs. -/
theorem Catalog.validate_eq_ok {catalog : Catalog} :
    catalog.validate = .ok () ↔ catalog.Valid := by
  rw [Catalog.validate, firstError_eq_ok, Catalog.violations, List.flatMap_eq_nil_iff]
  refine forall₂_congr fun schema _ => ?_
  rw [List.append_eq_nil_iff, Schema.violations_eq_nil, List.flatMap_eq_nil_iff, and_assoc]
  refine and_congr_right fun _ => ?_
  -- Validation goes over the tables twice, for the rules within a schema and for those across.
  simp only [Schema.tableViolations_eq_nil, List.flatMap_eq_nil_iff,
    Catalog.crossViolations_eq_nil]
  constructor
  · rintro ⟨hlocal, hcross⟩ table htable
    obtain ⟨hnames, hsound, hholds⟩ := hlocal table htable
    exact ⟨hnames, hsound, fun relation hrel =>
      ⟨hholds relation hrel, hcross table htable relation hrel⟩⟩
  · intro h
    refine ⟨fun table htable => ?_, fun table htable relation hrel => ?_⟩
    · obtain ⟨hnames, hsound, hrelations⟩ := h table htable
      exact ⟨hnames, hsound, fun relation hrel => (hrelations relation hrel).1⟩
    · exact ((h table htable).2.2 relation hrel).2

/-! ### Where a violation comes from -/

/-- The error of a validation is one of the violations. -/
theorem mem_of_firstError {ε : Type} {errors : List ε} {e : ε}
    (h : firstError errors = .error e) : e ∈ errors := by
  cases errors with
  | nil => nomatch h
  | cons e' errors =>
    obtain rfl : e' = e := Except.error.inj h
    exact List.mem_cons_self

/-- A violation on columns reports a name that occurs twice, the names before included, or a
column that is not sound. -/
theorem mem_columnViolations {table : String} {seen : List String} {columns : List Column}
    {e : CatalogError} (h : e ∈ columnViolations table seen columns) :
    (∃ name, 2 ≤ (seen ++ columns.map (·.name)).count name ∧ e = .duplicateColumn table name) ∨
      ∃ column ∈ columns, ¬column.Sound ∧
        e = .unexpectedPrecision table column.name column.type.name := by
  induction columns generalizing seen with
  | nil => exact absurd h List.not_mem_nil
  | cons column columns ih =>
    rw [columnViolations, List.mem_append, List.mem_append] at h
    rcases h with (h | h) | h
    · -- The name is among those seen and once more the name of this column.
      obtain ⟨hseen, h⟩ := List.mem_ite_nil_right.1 h
      have hbefore : 0 < seen.count column.name := List.count_pos_iff.2 hseen
      refine .inl ⟨column.name, ?_, List.mem_singleton.1 h⟩
      rw [List.count_append, List.map_cons, List.count_cons_self]
      omega
    · obtain ⟨⟨hprecision, htype⟩, h⟩ := List.mem_ite_nil_right.1 h
      exact .inr ⟨column, List.mem_cons_self, fun hsound => htype (hsound hprecision),
        List.mem_singleton.1 h⟩
    · -- Or one of the columns behind it is at fault.
      rcases ih h with ⟨name, hcount, he⟩ | ⟨other, hother, hsound, he⟩
      · -- The columns that follow are checked with the same names, in another order.
        have hperm : (seen ++ (column :: columns).map (·.name)).Perm
            (column.name :: seen ++ columns.map (·.name)) := List.perm_middle
        rw [← hperm.count_eq] at hcount
        exact .inl ⟨name, hcount, he⟩
      · exact .inr ⟨other, List.mem_cons_of_mem _ hother, hsound, he⟩

/-- A violation on a relation whose ends and owner are tables of the schema reports a column of
the key that the owner lacks. -/
theorem Schema.mem_localViolations {schema : Schema} {table : String} {relation : Relation}
    {owner : Table} {e : CatalogError} (hsource : relation.sourceTable ∈ schema.tableNames)
    (htarget : relation.targetTable ∈ schema.tableNames)
    (howner : schema.table? relation.keyOwner = some owner)
    (h : e ∈ schema.localViolations table relation) :
    ∃ column ∈ relation.foreignKey.columns, column ∉ owner.columns.map (·.name) ∧
      e = .unknownForeignKeyColumn relation.keyOwner relation.foreignKey.name column := by
  have hends : [relation.sourceTable, relation.targetTable].filter
      (fun name => decide (name ∉ schema.tableNames)) = [] := by
    simp [hsource, htarget]
  -- Neither end is missing, so only the columns of the key are left to complain about.
  rw [Schema.localViolations, hends, howner, List.map_nil, List.nil_append, List.mem_map] at h
  obtain ⟨column, hcolumn, rfl⟩ := h
  obtain ⟨hcolumn, hmissing⟩ := List.mem_filter.1 hcolumn
  refine ⟨column, hcolumn, fun hmem => ?_, rfl⟩
  rw [← Table.column?_isSome] at hmem
  cases hfound : owner.column? column <;> simp_all

/-- **Place of a violation** in a catalog. -/
inductive Catalog.ViolatedAt (catalog : Catalog) (e : CatalogError) : Prop
  /-- A schema names two tables alike. -/
  | tableNames (schema : Schema) (mem : schema ∈ catalog.schemas)
      (repeated : ¬schema.tableNames.Nodup)
  | columns (schema : Schema) (mem : schema ∈ catalog.schemas) (table : Table)
      (memTable : table ∈ schema.tables)
      (violation : e ∈ columnViolations table.name [] table.columns)
  /-- A relation that stays in its schema. -/
  | inside (schema : Schema) (mem : schema ∈ catalog.schemas) (table : Table)
      (memTable : table ∈ schema.tables) (relation : Relation)
      (memRelation : relation ∈ table.relations) (stays : relation.targetSchema = none)
      (violation : e ∈ schema.localViolations table.name relation)
  /-- A relation that leads into another schema. -/
  | across (schema : Schema) (mem : schema ∈ catalog.schemas) (table : Table)
      (memTable : table ∈ schema.tables) (relation : Relation)
      (memRelation : relation ∈ table.relations)
      (violation : e ∈ catalog.crossViolations schema table.name relation)

theorem Catalog.violatedAt_of_mem {catalog : Catalog} {e : CatalogError}
    (h : e ∈ catalog.violations) : catalog.ViolatedAt e := by
  obtain ⟨schema, hschema, h⟩ := List.mem_flatMap.1 h
  rw [List.mem_append, Schema.violations, List.mem_append] at h
  -- The schema lists repeated names and the violations of its tables, the catalog those across.
  rcases h with (h | h) | h
  · refine .tableNames schema hschema fun hnodup => ?_
    -- Different names would leave this list empty.
    have hnone : repeats [] schema.tableNames = [] :=
      repeats_eq_nil.2 ⟨hnodup, fun _ _ => List.not_mem_nil⟩
    rw [hnone] at h
    exact absurd h List.not_mem_nil
  · obtain ⟨table, htable, h⟩ := List.mem_flatMap.1 h
    rw [Schema.tableViolations, List.mem_append] at h
    rcases h with h | h
    · exact .columns schema hschema table htable h
    · obtain ⟨relation, hrelation, h⟩ := List.mem_flatMap.1 h
      obtain ⟨hrelation, hstays⟩ := List.mem_filter.1 hrelation
      exact .inside schema hschema table htable relation hrelation
        (Option.isNone_iff_eq_none.1 hstays) h
  · obtain ⟨table, htable, h⟩ := List.mem_flatMap.1 h
    obtain ⟨relation, hrelation, h⟩ := List.mem_flatMap.1 h
    exact .across schema hschema table htable relation hrelation h

end SchemaDiagram
