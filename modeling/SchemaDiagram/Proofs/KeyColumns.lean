import SchemaDiagram.Catalog.Filter
import SchemaDiagram.Proofs.Drawing
import SchemaDiagram.Proofs.Names
import SchemaDiagram.Proofs.SnapshotRoundTrip
import SchemaDiagram.Proofs.Validity

/-!
# Where the lines of a valid catalog start

The lines of a many-to-one relation start at the columns of its key, on the source table. That
these columns exist is checked at the owner of the key and only where no target schema is named:

* `Relation.CheckedAtSource`: the relations for which this is a check of the source. For them a
  valid catalog has all columns, and so has every document drawn from it;
* `guaranteed_iff_checkedAtSource`: no other relation has a guarantee, unless its key has no
  columns. Both directions together are the exact range of the check
  (`checked_key_columns_exist`);
* `Catalog.validate_rekeyAcross`: for a relation that names a target schema, even one within the
  catalog, validation says the same whatever the columns of its key are. So a line may start at a
  column that there is not (`unchecked_key_column_drawn`).
-/

namespace SchemaDiagram

/-! ### Columns at the source -/

/-- The schema has a table of this name with a column of that name. -/
def Schema.HasColumn (schema : Schema) (table column : String) : Prop :=
  ∃ t ∈ schema.tables, t.name = table ∧ column ∈ t.columns.map (·.name)

/-- **Checked at the source:** validation looks the columns of the key up, and on the source
table. -/
structure Relation.CheckedAtSource (relation : Relation) : Prop where
  stays : relation.targetSchema = none
  owner : relation.keyOwner = relation.sourceTable

/-- **Checked columns exist:** in a valid catalog a source has the columns of the keys that are
checked there. -/
theorem Catalog.Valid.hasColumn {catalog : Catalog} {schema : Schema} {table : Table}
    {relation : Relation} {column : String} (h : catalog.Valid) (hschema : schema ∈ catalog.schemas)
    (htable : table ∈ schema.tables) (hrelation : relation ∈ table.relations)
    (hchecked : relation.CheckedAtSource) (hcolumn : column ∈ relation.foreignKey.columns) :
    schema.HasColumn relation.sourceTable column := by
  obtain ⟨-, htables⟩ := h schema hschema
  obtain ⟨-, -, hrelations⟩ := htables table htable
  obtain ⟨owner, howner, hcolumns⟩ := ((hrelations relation hrelation).1 hchecked.stays).key
  -- The owner, at which the columns were found, is the source itself.
  rw [hchecked.owner] at howner
  have hname := List.find?_some howner
  exact ⟨owner, List.mem_of_find?_eq_some howner, of_decide_eq_true hname, hcolumns column hcolumn⟩

/-! ### Relations without a guarantee -/

/-- A column of whole numbers. -/
def numberColumn (name : String) : Column :=
  ⟨name, ⟨"bigint", some "int8", false, false⟩, true, false, none⟩

namespace Relation

/-- A table for the relation: with the relation if this starts there, and with the columns of its
key if validation looks for them there. -/
def bareTable (relation : Relation) (name : String) : Table where
  name := name
  columns :=
    if relation.targetSchema = none ∧ name = relation.keyOwner then
      relation.foreignKey.columns.eraseDups.map numberColumn
    else []
  relations := if name = relation.sourceTable then [relation] else []

/-- A schema for the relation, which is its target schema if it names one. -/
def bareSchema (relation : Relation) : Schema where
  name := relation.targetSchema.getD "public"
  tables := [relation.sourceTable, relation.keyOwner, relation.targetTable].eraseDups.map
    relation.bareTable

/-- A catalog that has just what validation asks of the relation. -/
def bareCatalog (relation : Relation) : Catalog := ⟨[relation.bareSchema]⟩

variable (relation : Relation)

/-- The bare schema has the three tables to which the relation refers. -/
theorem bareSchema_tableNames : relation.bareSchema.tableNames =
    [relation.sourceTable, relation.keyOwner, relation.targetTable].eraseDups := by
  rw [Schema.tableNames, bareSchema, List.map_map]
  exact List.map_id' _

/-- Each table of the bare schema is found under its name. -/
theorem bareSchema_table? {name : String}
    (h : name ∈ [relation.sourceTable, relation.keyOwner, relation.targetTable]) :
    relation.bareSchema.table? name = some (relation.bareTable name) :=
  find?_map_of_name Table.name relation.bareTable (fun _ => rfl) (List.mem_eraseDups.2 h)

/-- The columns of a bare table have different names. -/
theorem bareTable_columnNames_nodup (name : String) :
    ((relation.bareTable name).columns.map (·.name)).Nodup := by
  unfold bareTable
  dsimp only
  split
  · rw [List.map_map, show (fun column : Column => column.name) ∘ numberColumn = id from rfl,
      List.map_id]
    exact nodup_eraseDups _
  · exact List.nodup_nil

/-- The columns of a bare table are sound, as none of them has a precision. -/
theorem bareTable_sound (name : String) :
    ∀ column ∈ (relation.bareTable name).columns, column.Sound := by
  intro column hcolumn
  unfold bareTable at hcolumn
  dsimp only at hcolumn
  split at hcolumn
  · obtain ⟨_, -, rfl⟩ := List.mem_map.1 hcolumn
    intro hprecision
    nomatch hprecision
  · exact absurd hcolumn List.not_mem_nil

/-- A relation that stays in its schema holds in the bare one. -/
theorem bareSchema_holds (h : relation.targetSchema = none) :
    relation.bareSchema.Holds relation := by
  have hmem : ∀ name ∈ [relation.sourceTable, relation.keyOwner, relation.targetTable],
      name ∈ relation.bareSchema.tableNames := by
    intro name hname
    rw [bareSchema_tableNames]
    exact List.mem_eraseDups.2 hname
  refine ⟨hmem _ (by simp), hmem _ (by simp), relation.bareTable relation.keyOwner,
    relation.bareSchema_table? (by simp), fun column hcolumn => ?_⟩
  -- The owner has got the columns of the key.
  rw [bareTable, if_pos ⟨h, rfl⟩, List.map_map]
  exact List.mem_map.2 ⟨column, List.mem_eraseDups.2 hcolumn, rfl⟩

/-- A relation that names a target schema reaches it in the bare catalog, as its own. -/
theorem bareCatalog_reaches {target : String} (h : relation.targetSchema = some target) :
    relation.bareCatalog.Reaches relation.bareSchema relation target := by
  have hfound : relation.bareCatalog.schema? target = some relation.bareSchema := by
    refine List.find?_cons_of_pos (decide_eq_true ?_)
    rw [bareSchema, h, Option.getD_some]
  refine ⟨?_, relation.bareSchema, hfound, ?_⟩
  · rw [bareSchema_tableNames]
    exact List.mem_eraseDups.2 (by simp)
  · rw [bareSchema_tableNames]
    exact List.mem_eraseDups.2 (by simp)

/-- **The bare catalog is valid.** -/
theorem bareCatalog_valid : relation.bareCatalog.Valid := by
  intro schema hschema
  obtain rfl := List.mem_singleton.1 hschema
  refine ⟨?_, fun table htable => ?_⟩
  · rw [bareSchema_tableNames]
    exact nodup_eraseDups _
  · obtain ⟨name, -, rfl⟩ := List.mem_map.1 htable
    refine ⟨relation.bareTable_columnNames_nodup name, relation.bareTable_sound name,
      fun other hother => ?_⟩
    -- No table has another relation than the one for which the catalog is made.
    obtain rfl : other = relation := by
      unfold bareTable at hother
      dsimp only at hother
      split at hother
      · exact List.mem_singleton.1 hother
      · exact absurd hother List.not_mem_nil
    exact ⟨other.bareSchema_holds, fun target => other.bareCatalog_reaches⟩

/-- The source has no column, unless the key is checked there. -/
theorem bareSchema_hasColumn {column : String}
    (h : relation.bareSchema.HasColumn relation.sourceTable column) : relation.CheckedAtSource := by
  obtain ⟨table, htable, hname, hcolumn⟩ := h
  obtain ⟨name, -, rfl⟩ := List.mem_map.1 htable
  obtain rfl : name = relation.sourceTable := hname
  unfold bareTable at hcolumn
  dsimp only at hcolumn
  split at hcolumn
  · next h => exact ⟨h.1, h.2.symm⟩
  · exact absurd hcolumn List.not_mem_nil

end Relation

/-- **Guaranteed columns:** in every valid catalog that has the relation, the columns of its key are
at its source. -/
def Relation.ColumnsGuaranteed (relation : Relation) : Prop :=
  ∀ catalog : Catalog, catalog.validate = .ok () → ∀ schema ∈ catalog.schemas,
    ∀ table ∈ schema.tables, relation ∈ table.relations →
      ∀ column ∈ relation.foreignKey.columns, schema.HasColumn relation.sourceTable column

/-- **What validation guarantees.** The columns of a key are guaranteed just in case the key is
checked at the source, or has no columns. -/
theorem guaranteed_iff_checkedAtSource (relation : Relation) :
    relation.ColumnsGuaranteed ↔
      relation.CheckedAtSource ∨ relation.foreignKey.columns = [] := by
  constructor
  · intro h
    cases hcolumns : relation.foreignKey.columns with
    | nil => exact .inr rfl
    | cons column columns =>
      -- The bare catalog has a column at the source only where validation asks for it.
      have hvalid := Catalog.validate_eq_ok.2 relation.bareCatalog_valid
      have hsource : relation.bareTable relation.sourceTable ∈ relation.bareSchema.tables :=
        List.mem_map.2 ⟨_, List.mem_eraseDups.2 (by simp), rfl⟩
      have hrelation : relation ∈ (relation.bareTable relation.sourceTable).relations := by
        rw [Relation.bareTable, if_pos rfl]
        exact List.mem_singleton_self relation
      have hcolumn := h relation.bareCatalog hvalid relation.bareSchema List.mem_cons_self _ hsource
        hrelation column (by rw [hcolumns]; exact List.mem_cons_self)
      exact .inl (relation.bareSchema_hasColumn hcolumn)
  · -- A checked key has its columns at the source, and without columns there is nothing to ask.
    rintro (hchecked | hnone) catalog hvalid schema hschema table htable hrelation column hcolumn
    · have hholds := Catalog.validate_eq_ok.1 hvalid
      exact hholds.hasColumn hschema htable hrelation hchecked hcolumn
    · rw [hnone] at hcolumn
      exact absurd hcolumn List.not_mem_nil

/-! ### Filtered schemas -/

namespace TableFilter

variable {f : TableFilter} {schema : Schema} {table : Table} {relation : Relation}

/-- A filter brings no relation to a table that it keeps. -/
theorem exists_whole (htable : table ∈ (f.apply schema).tables)
    (hrelation : relation ∈ table.relations) :
    ∃ whole ∈ schema.tables, relation ∈ whole.relations := by
  unfold apply at htable
  split at htable
  · -- Without a pattern nothing was dropped.
    exact ⟨table, htable, hrelation⟩
  · obtain ⟨whole, hwhole, rfl⟩ := List.mem_map.1 htable
    exact ⟨whole, (List.mem_filter.1 hwhole).1, (List.mem_filter.1 hrelation).1⟩

/-- The source of a relation that is kept is kept, with all its columns. -/
theorem hasColumn_apply {column : String} (htable : table ∈ (f.apply schema).tables)
    (hrelation : relation ∈ table.relations)
    (h : schema.HasColumn relation.sourceTable column) :
    (f.apply schema).HasColumn relation.sourceTable column := by
  obtain ⟨source, hsource, hname, hcolumn⟩ := h
  unfold apply at htable ⊢
  split at htable
  · -- Without a pattern nothing was dropped.
    next hempty =>
    rw [if_pos hempty]
    exact ⟨source, hsource, hname, hcolumn⟩
  · next hsome =>
    rw [if_neg hsome]
    obtain ⟨whole, -, rfl⟩ := List.mem_map.1 htable
    -- A relation is kept only together with its source.
    obtain ⟨-, hkept⟩ := List.mem_filter.1 hrelation
    unfold keepsRelation at hkept
    simp only [Bool.and_eq_true, decide_eq_true_eq] at hkept
    obtain ⟨⟨hkept, -⟩, -⟩ := hkept
    rw [← hname] at hkept
    refine ⟨_, List.mem_map.2 ⟨source, List.mem_filter.2 ⟨hsource, ?_⟩, rfl⟩, hname, hcolumn⟩
    exact decide_eq_true hkept

end TableFilter

/-! ### Other keys for relations into other schemas -/

/-- The relation with these columns in its key if it names a target schema. -/
def Relation.rekeyAcross (columns : Relation → List String) (relation : Relation) : Relation :=
  if relation.targetSchema.isSome then
    { relation with foreignKey := { relation.foreignKey with columns := columns relation } }
  else relation

def Table.rekeyAcross (columns : Relation → List String) (table : Table) : Table :=
  { table with relations := table.relations.map (Relation.rekeyAcross columns) }

def Schema.rekeyAcross (columns : Relation → List String) (schema : Schema) : Schema :=
  { schema with tables := schema.tables.map (Table.rekeyAcross columns) }

/-- The catalog with other columns in the keys of all relations that name a target schema. -/
def Catalog.rekeyAcross (columns : Relation → List String) (catalog : Catalog) : Catalog :=
  ⟨catalog.schemas.map (Schema.rekeyAcross columns)⟩

section Rekey

variable (columns : Relation → List String)

/-- A relation that stays in its schema keeps its key. -/
theorem Relation.rekeyAcross_of_stays {relation : Relation} (h : relation.targetSchema = none) :
    relation.rekeyAcross columns = relation := by
  rw [rekeyAcross, h]
  exact if_neg Bool.false_ne_true

/-- Another key leaves a relation its target schema. -/
@[simp] theorem Relation.rekeyAcross_targetSchema (relation : Relation) :
    (relation.rekeyAcross columns).targetSchema = relation.targetSchema := by
  rw [rekeyAcross]
  split <;> rfl

/-- Another key leaves a relation its source. -/
@[simp] theorem Relation.rekeyAcross_sourceTable (relation : Relation) :
    (relation.rekeyAcross columns).sourceTable = relation.sourceTable := by
  rw [rekeyAcross]
  split <;> rfl

/-- Another key leaves a relation its target. -/
@[simp] theorem Relation.rekeyAcross_targetTable (relation : Relation) :
    (relation.rekeyAcross columns).targetTable = relation.targetTable := by
  rw [rekeyAcross]
  split <;> rfl

/-- The tables of the schema are the ones it had, with other keys. -/
theorem Schema.rekeyAcross_tables (schema : Schema) :
    (schema.rekeyAcross columns).tables = schema.tables.map (Table.rekeyAcross columns) := rfl

/-- The tables of the schema have the names that they had. -/
theorem Schema.rekeyAcross_tableNames (schema : Schema) :
    (schema.rekeyAcross columns).tableNames = schema.tableNames := by
  rw [tableNames, rekeyAcross, List.map_map]
  rfl

/-- A table is found under the name that it had. -/
theorem Schema.rekeyAcross_table? (schema : Schema) (name : String) :
    (schema.rekeyAcross columns).table? name =
      (schema.table? name).map (Table.rekeyAcross columns) := by
  rw [table?, rekeyAcross, List.find?_map]
  rfl

/-- A schema is found under the name that it had. -/
theorem Catalog.rekeyAcross_schema? (catalog : Catalog) (name : String) :
    (catalog.rekeyAcross columns).schema? name =
      (catalog.schema? name).map (Schema.rekeyAcross columns) := by
  rw [schema?, rekeyAcross, List.find?_map]
  rfl

/-- The owner of a key has the same columns as before. -/
theorem Schema.rekeyAcross_localViolations (schema : Schema) (table : String)
    (relation : Relation) :
    (schema.rekeyAcross columns).localViolations table relation =
      schema.localViolations table relation := by
  rw [localViolations, localViolations, rekeyAcross_tableNames, rekeyAcross_table?]
  cases schema.table? relation.keyOwner with
  | none => rfl
  | some owner => rfl

/-- What is wrong with a table by itself does not depend on the keys that lead across. -/
theorem Schema.rekeyAcross_tableViolations (schema : Schema) (table : Table) :
    (schema.rekeyAcross columns).tableViolations (table.rekeyAcross columns) =
      schema.tableViolations table := by
  -- The relations that are checked here are those that stay as they are.
  have hstays : ((table.relations.map (Relation.rekeyAcross columns)).filter
      (·.targetSchema.isNone)) = table.relations.filter (·.targetSchema.isNone) := by
    rw [List.filter_map, List.map_congr_left (g := id), List.map_id]
    · refine List.filter_congr fun relation _ => ?_
      rw [Function.comp_apply, Relation.rekeyAcross_targetSchema]
    · -- A relation that stays is not changed.
      intro relation hrelation
      obtain ⟨-, hnone⟩ := List.mem_filter.1 hrelation
      rw [Function.comp_apply, Relation.rekeyAcross_targetSchema,
        Option.isNone_iff_eq_none] at hnone
      exact Relation.rekeyAcross_of_stays columns hnone
  rw [tableViolations, tableViolations, Table.rekeyAcross, hstays]
  have hlocal := funext (schema.rekeyAcross_localViolations columns table.name)
  rw [hlocal]

/-- What is wrong with a schema by itself does not depend on the keys that lead across. -/
theorem Schema.rekeyAcross_violations (schema : Schema) :
    (schema.rekeyAcross columns).violations = schema.violations := by
  have htables : (schema.rekeyAcross columns).tables.flatMap
      (schema.rekeyAcross columns).tableViolations =
        schema.tables.flatMap schema.tableViolations := by
    rw [rekeyAcross_tables, List.flatMap_map]
    exact List.flatMap_congr fun table _ => schema.rekeyAcross_tableViolations columns table
  rw [violations, violations, rekeyAcross_tableNames, htables]
  rfl

/-- What is wrong with a relation across does not depend on the columns of its key. -/
theorem Catalog.rekeyAcross_crossViolations (catalog : Catalog) (schema : Schema) (table : String)
    (relation : Relation) :
    (catalog.rekeyAcross columns).crossViolations (schema.rekeyAcross columns) table
        (relation.rekeyAcross columns) =
      catalog.crossViolations schema table relation := by
  unfold crossViolations
  rw [Relation.rekeyAcross_targetSchema]
  cases relation.targetSchema with
  | none => rfl
  | some target =>
    -- Both schemas are asked for tables only, and these have the same names as before.
    simp only [rekeyAcross_schema?, Relation.rekeyAcross_targetTable,
      Relation.rekeyAcross_sourceTable, Schema.rekeyAcross_table?, Option.isNone_map]
    cases catalog.schema? target with
    | none => rfl
    | some other => simp [Schema.rekeyAcross_table?]

/-- **Unread keys.** What validation says does not depend on the key columns of the relations that
name a target schema. -/
theorem Catalog.validate_rekeyAcross (catalog : Catalog) :
    (catalog.rekeyAcross columns).validate = catalog.validate := by
  have hviolations : (catalog.rekeyAcross columns).violations = catalog.violations := by
    unfold violations
    rw [show (catalog.rekeyAcross columns).schemas =
      catalog.schemas.map (Schema.rekeyAcross columns) from rfl, List.flatMap_map]
    -- Schema by schema and relation by relation, the violations are the same.
    refine List.flatMap_congr fun schema _ => ?_
    rw [Schema.rekeyAcross_violations, Schema.rekeyAcross_tables, List.flatMap_map]
    refine congrArg (schema.violations ++ ·) ?_
    refine List.flatMap_congr fun table _ => ?_
    rw [show (table.rekeyAcross columns).relations =
      table.relations.map (Relation.rekeyAcross columns) from rfl, List.flatMap_map]
    refine List.flatMap_congr fun relation _ => ?_
    exact catalog.rekeyAcross_crossViolations columns schema table.name relation
  rw [validate, validate, hviolations]

end Rekey

/-! ### Relation lines of a document -/

/-- A line of a relation belongs to a column of its key. -/
theorem Relation.mem_drawnLines {relation : Relation} {line : String}
    (h : line ∈ relation.drawnLines) :
    ∃ target, ∃ column ∈ relation.foreignKey.columns, line = relation.line target column := by
  by_cases hdrawable : relation.Drawable
  · obtain ⟨target, htarget⟩ := hdrawable
    rw [drawnLines, lines_of_joinColumn? htarget] at h
    obtain ⟨column, hcolumn, rfl⟩ := List.mem_map.1 h
    exact ⟨target, column, hcolumn, rfl⟩
  · rw [drawnLines, lines_of_not_drawable hdrawable] at h
    exact absurd h List.not_mem_nil

/-- **Lines start at columns.** Each relation line of the schema belongs to a relation of its table,
and it starts at a column of the schema if the key of the relation is checked at its source. -/
def Schema.LinesStartAtColumns (schema : Schema) : Prop :=
  ∀ table ∈ schema.tables, ∀ line ∈ table.relationLines,
    ∃ relation ∈ table.manyToOne, ∃ target, ∃ column ∈ relation.foreignKey.columns,
      line = relation.line target column ∧
        (relation.CheckedAtSource → schema.HasColumn relation.sourceTable column)

/-- **Lines of a valid catalog** start at columns of the schema that is drawn, filtered or not. -/
theorem Catalog.Valid.linesStartAtColumns {catalog : Catalog} {schema : Schema}
    (h : catalog.Valid) (hschema : schema ∈ catalog.schemas) (filter : TableFilter) :
    (filter.apply schema).LinesStartAtColumns := by
  intro table htable line hline
  obtain ⟨relation, hrelation, hline⟩ := List.mem_flatMap.1 hline
  obtain ⟨target, column, hcolumn, rfl⟩ := Relation.mem_drawnLines hline
  refine ⟨relation, hrelation, target, column, hcolumn, rfl, fun hchecked => ?_⟩
  -- The relation comes from a table of the whole schema, and its source is kept with it.
  obtain ⟨hrelation, -⟩ := List.mem_filter.1 hrelation
  obtain ⟨whole, hwhole, hsame⟩ := TableFilter.exists_whole htable hrelation
  have hcolumn := h.hasColumn hschema hwhole hsame hchecked hcolumn
  exact TableFilter.hasColumn_apply htable hrelation hcolumn

/-- **Checked key columns exist.** In a valid catalog the source of a many-to-one relation whose
key is checked there has all columns of the key, and the relation lines of every document start at
columns that it shows, unless their relation is not checked. What is not checked are, first of all,
the relations that name a target schema: their keys may get any columns, and the catalog stays
valid. So the check at the source is exactly what guarantees the columns of a key. -/
theorem checked_key_columns_exist (catalog : Catalog) (hvalid : catalog.validate = .ok ()) :
    (∀ schema ∈ catalog.schemas, ∀ table ∈ schema.tables, ∀ relation ∈ table.manyToOne,
      relation.CheckedAtSource → ∀ column ∈ relation.foreignKey.columns,
        schema.HasColumn relation.sourceTable column) ∧
    (∀ schema ∈ catalog.schemas, ∀ (filter : TableFilter) (policy : PrecisionPolicy)
      (document : Document), ((filter.apply schema).document policy).1 = .ok document →
        document.text = (filter.apply schema).text ∧
          (filter.apply schema).LinesStartAtColumns) ∧
    (∀ columns : Relation → List String, (catalog.rekeyAcross columns).validate = .ok ()) ∧
    ∀ relation : Relation, relation.ColumnsGuaranteed ↔
      relation.CheckedAtSource ∨ relation.foreignKey.columns = [] := by
  have hholds := Catalog.validate_eq_ok.1 hvalid
  refine ⟨?_, ?_, fun columns => ?_, guaranteed_iff_checkedAtSource⟩
  · intro schema hschema table htable relation hrelation hchecked column hcolumn
    obtain ⟨hrelation, -⟩ := List.mem_filter.1 hrelation
    exact hholds.hasColumn hschema htable hrelation hchecked hcolumn
  · intro schema hschema filter policy document hdocument
    exact ⟨Schema.document_text hdocument, hholds.linesStartAtColumns hschema filter⟩
  · rw [Catalog.validate_rekeyAcross]
    exact hvalid

/-- An order may replace another one, and it belongs to a user, who is in another schema. -/
def ordersTable (columns : List String) : Table where
  name := "orders"
  columns := columns.map numberColumn
  relations :=
    [⟨.manyToOne, "orders", none, "orders", ⟨"orders_order_fk", ["replaces"], [.column "id"]⟩,
        none⟩,
      ⟨.manyToOne, "orders", some "crm", "users", ⟨"orders_user_fk", ["user_id"],
        [.column "id"]⟩, none⟩]

/-- A shop whose orders have these columns. -/
def shopCatalog (columns : List String) : Catalog where
  schemas := [⟨"public", [ordersTable columns]⟩, ⟨"crm", [⟨"users", [numberColumn "id"], []⟩]⟩]

/-- The orders replaced are found in any case. -/
theorem checked_key_columns_exist_shop :
    (shopCatalog ["id", "replaces"]).validate = .ok () ∧
    (Schema.mk "public" [ordersTable ["id", "replaces"]]).HasColumn "orders" "replaces" := by
  have hvalid : (shopCatalog ["id", "replaces"]).validate = .ok () := rfl
  obtain ⟨hcolumns, -, -⟩ := checked_key_columns_exist _ hvalid
  exact ⟨hvalid, hcolumns _ List.mem_cons_self _ List.mem_cons_self _ List.mem_cons_self
    ⟨rfl, rfl⟩ _ List.mem_cons_self⟩

/-- **A line from nowhere.** The catalog of the shop is accepted, and so is its snapshot, while its
orders have no column for the user. The document draws a line from this column. -/
theorem unchecked_key_column_drawn :
    let catalog := shopCatalog ["id", "replaces"]
    let schema : Schema := ⟨"public", [ordersTable ["id", "replaces"]]⟩
    catalog.validate = .ok () ∧ Catalog.ofSnapshot catalog.toSnapshot = .ok catalog ∧
    schema ∈ catalog.schemas ∧ ¬schema.HasColumn "orders" "user_id" ∧
    ∃ document, (schema.document .strict).1 = .ok document ∧
      document.text =
        "orders [] \x7b \n    id: INT8 NOT NULL \n    replaces: INT8 NOT NULL \n\x7d\n\n" ++
          "orders.replaces > orders.id\norders.user_id > users.id" := by
  intro catalog schema
  have hvalid : catalog.validate = .ok () := rfl
  have hread : Catalog.ofSnapshot catalog.toSnapshot = .ok catalog :=
    Catalog.ofSnapshot_toSnapshot_of_valid hvalid [] rfl (List.append_nil _).symm
  refine ⟨hvalid, hread, List.mem_cons_self, ?_, _, rfl, ?_⟩
  · rintro ⟨table, htable, -, hcolumn⟩
    obtain rfl := List.mem_singleton.1 htable
    exact absurd hcolumn (by decide)
  · decide

end SchemaDiagram
