import Mathlib.Data.List.Nodup
import SchemaDiagram.Proofs.FirstViolation
import SchemaDiagram.Proofs.KeyColumns

/-!
# What the errors of validation say

An error of validation names tables and columns, and thereby says something about the catalog:
`CatalogError.TrueOf` reads it as a statement. Of the catalog that fails first with the error the
statement is true (`validation_errors_true`), with one exception, `Catalog.Misreports`: where the
source of a relation across is missing, the error names the target, and this may well be there
(`present_table_reported_unknown`).

The proof takes the first failure apart, level by level; `Schema.FailsWith.trueOf` is the part that
concerns one schema by itself, `Catalog.CrossFails.trueOf_or_misreports` that on relations across.
-/

namespace SchemaDiagram

/-! ### What an error says -/

/-- **Tables of a relation.** The relation refers to a table of the schema by that name, in which
it is held: its source, its target unless that is in another schema, or its join table. -/
def Relation.Touches (relation : Relation) (schema table : String) : Prop :=
  table = relation.sourceTable ∨
    ((relation.targetSchema = none ∨ relation.targetSchema = some schema) ∧
      table = relation.targetTable) ∨
    ∃ join ∈ relation.join, table = join.table

/-- There is a table of this name in the schema of that name, the first one so called. -/
def Catalog.HasTable (catalog : Catalog) (schema table : String) : Prop :=
  ∃ s, catalog.schema? schema = some s ∧ table ∈ s.tableNames

/-- **Truth of an error:** what it says is the case in the catalog. -/
def CatalogError.TrueOf (catalog : Catalog) : CatalogError → Prop
  | duplicateTable schema table =>
    ∃ s ∈ catalog.schemas, s.name = schema ∧ 2 ≤ s.tableNames.count table
  | duplicateColumn table column =>
    ∃ s ∈ catalog.schemas, ∃ t ∈ s.tables, t.name = table ∧
      2 ≤ (t.columns.map (·.name)).count column
  | unexpectedPrecision table column type =>
    ∃ s ∈ catalog.schemas, ∃ t ∈ s.tables, t.name = table ∧ ∃ c ∈ t.columns, c.name = column ∧
      c.type.name = type ∧ c.precision.isSome ∧ ¬c.type.hasPrecision
  | unknownForeignKeyColumn table key column =>
    ∃ s ∈ catalog.schemas, (∃ t ∈ s.tables, ∃ relation ∈ t.relations, relation.keyOwner = table ∧
      relation.foreignKey.name = key ∧ column ∈ relation.foreignKey.columns) ∧
      table ∈ s.tableNames ∧ ¬s.HasColumn table column
  | unknownRelationTable table target =>
    ∃ s ∈ catalog.schemas, ∃ t ∈ s.tables, t.name = table ∧ ∃ relation ∈ t.relations,
      (relation.targetSchema = none ∧ relation.Touches s.name target ∧ target ∉ s.tableNames) ∨
      ∃ schema, relation.targetSchema = some schema ∧
        target = schema ++ "." ++ relation.targetTable ∧
        ¬catalog.HasTable schema relation.targetTable
  -- These are errors of requests, and say nothing on a catalog by itself.
  | unknownRelationKind _ => False
  | schemaNotFound _ => False

/-- **A table reported in the place of another:** the source of a relation across is missing, and
the error names the target, which is there. -/
inductive Catalog.Misreports (catalog : Catalog) : CatalogError → Prop
  | target (schema : Schema) (mem : schema ∈ catalog.schemas) (table : Table)
      (memTable : table ∈ schema.tables) (relation : Relation)
      (memRelation : relation ∈ table.relations) (other : String)
      (across : relation.targetSchema = some other)
      (missing : relation.sourceTable ∉ schema.tableNames)
      (present : catalog.HasTable other relation.targetTable) :
      catalog.Misreports
        (.unknownRelationTable table.name (other ++ "." ++ relation.targetTable))

section Truth

variable {catalog : Catalog} {schema : Schema} {table : Table} {relation : Relation}
  {e : CatalogError}

/-- A name that has occurred before occurs twice with its next occurrence. -/
theorem two_le_count {name : String} {before after : List String} (h : name ∈ before) :
    2 ≤ (before ++ name :: after).count name := by
  -- Once before, once here.
  have hbefore : 0 < before.count name := List.count_pos_iff.2 h
  rw [List.count_append, List.count_cons_self]
  omega

/-- The owner of the key is one of the tables to which a relation within its schema refers. -/
theorem Relation.touches_keyOwner (h : relation.targetSchema = none) (schema : String) :
    relation.Touches schema relation.keyOwner := by
  unfold keyOwner
  cases hjoin : relation.join with
  | some join => exact .inr (.inr ⟨join, hjoin, rfl⟩)
  | none =>
    dsimp only
    split
    · exact .inr (.inl ⟨.inl h, rfl⟩)
    · exact .inl rfl

/-- In a schema with distinct table names no other table answers for the one that is found. -/
theorem Schema.not_hasColumn_of_table? {name column : String}
    (hdistinct : schema.tableNames.Nodup) (hfound : schema.table? name = some table)
    (hmissing : column ∉ table.columns.map (·.name)) : ¬schema.HasColumn name column := by
  rintro ⟨other, hother, rfl, hcolumn⟩
  have hname := List.find?_some hfound
  obtain rfl : table = other := List.inj_on_of_nodup_map hdistinct
    (List.mem_of_find?_eq_some hfound) hother (of_decide_eq_true hname)
  exact hmissing hcolumn

/-- Where a column fails, the error says truly what is wrong with it. -/
theorem ColumnFails.trueOf {before after : List Column} {column : Column}
    (hschema : schema ∈ catalog.schemas) (htable : table ∈ schema.tables)
    (hcolumns : table.columns = before ++ column :: after)
    (h : ColumnFails table.name before column e) : e.TrueOf catalog := by
  cases h with
  | repeated known =>
    refine ⟨schema, hschema, table, htable, rfl, ?_⟩
    rw [hcolumns, List.map_append, List.map_cons]
    exact two_le_count known
  | unsound new unsound =>
    -- A precision on a type that carries none: it is the type of this column.
    rw [Column.Sound, Classical.not_imp] at unsound
    have hcolumn : column ∈ table.columns := by rw [hcolumns]; simp
    exact ⟨schema, hschema, table, htable, rfl, column, hcolumn, rfl, rfl, unsound⟩

/-- Where a relation within its schema fails, the error names a table or a column that is
missing. -/
theorem Schema.RelationFails.trueOf (hschema : schema ∈ catalog.schemas)
    (hdistinct : schema.tableNames.Nodup) (htable : table ∈ schema.tables)
    (hrelation : relation ∈ table.relations) (hstays : relation.targetSchema = none)
    (h : schema.RelationFails table.name relation e) : e.TrueOf catalog := by
  -- In three of the four cases a table is missing, to which the relation refers.
  have hunknown : ∀ name, relation.Touches schema.name name → name ∉ schema.tableNames →
      (CatalogError.unknownRelationTable table.name name).TrueOf catalog :=
    fun name htouches hmissing =>
      ⟨schema, hschema, table, htable, rfl, relation, hrelation, .inl ⟨hstays, htouches, hmissing⟩⟩
  cases h with
  | source missing => exact hunknown _ (.inl rfl) missing
  | target source missing => exact hunknown _ (.inr (.inl ⟨.inl hstays, rfl⟩)) missing
  | owner source target missing =>
    exact hunknown _ (Relation.touches_keyOwner hstays schema.name) missing
  | column source target owner found before column after columns passed missing =>
    have hcolumn : column ∈ relation.foreignKey.columns := by rw [columns]; simp
    refine ⟨schema, hschema, ⟨table, htable, relation, hrelation, rfl, rfl, hcolumn⟩, ?_,
      schema.not_hasColumn_of_table? hdistinct found missing⟩
    rw [← Schema.table?_isSome, found]
    rfl

/-- Where a schema fails by itself, the error is true. -/
theorem Schema.FailsWith.trueOf (hschema : schema ∈ catalog.schemas) (h : schema.FailsWith e) :
    e.TrueOf catalog := by
  cases h with
  | tableName before name after names distinct repeated =>
    refine ⟨schema, hschema, rfl, ?_⟩
    rw [names]
    exact two_le_count repeated
  | table distinct _ first =>
    -- The names were checked before the tables, so they are distinct here.
    obtain ⟨table, htable, hfails⟩ := first.exists_mem
    cases hfails with
    | column beforeColumn column afterColumn columns passed fails =>
      exact fails.trueOf hschema htable columns
    | relation columns first =>
      obtain ⟨relation, hstays, hfails⟩ := first.exists_mem
      obtain ⟨hrelation, hstays⟩ := List.mem_filter.1 hstays
      exact hfails.trueOf hschema distinct htable hrelation (Option.isNone_iff_eq_none.1 hstays)

/-- A relation across that fails has no target, or else no source. -/
theorem Catalog.CrossFails.trueOf_or_misreports (hschema : schema ∈ catalog.schemas)
    (htable : table ∈ schema.tables) (hrelation : relation ∈ table.relations)
    (h : catalog.CrossFails schema table.name relation e) :
    e.TrueOf catalog ∨ catalog.Misreports e := by
  obtain ⟨target, across, missing⟩ := h
  -- Which end is missing decides between the two.
  by_cases hpresent : catalog.HasTable target relation.targetTable
  · have hsource : relation.sourceTable ∉ schema.tableNames :=
      fun hsource => missing ⟨hsource, hpresent⟩
    exact .inr (.target schema hschema table htable relation hrelation target across hsource
      hpresent)
  · exact .inl ⟨schema, hschema, table, htable, rfl, relation, hrelation,
      .inr ⟨target, across, rfl, hpresent⟩⟩

end Truth

/-- **Errors are true.** What validation reports is the case in the catalog, unless the source of a
relation across is missing: then the error names the target of the relation, though it is there. -/
theorem validation_errors_true (catalog : Catalog) (e : CatalogError)
    (h : catalog.validate = .error e) : e.TrueOf catalog ∨ catalog.Misreports e := by
  -- The first failure is that of some schema, either by itself or in its relations across.
  obtain ⟨schema, hschema, hfails⟩ := FailsFirst.exists_mem (Catalog.validate_eq_error.1 h)
  cases hfails with
  | inside fails => exact .inl (fails.trueOf hschema)
  | across passes first =>
    obtain ⟨table, htable, hfails⟩ := first.exists_mem
    obtain ⟨relation, hrelation, hfails⟩ := hfails.exists_mem
    exact hfails.trueOf_or_misreports hschema htable hrelation

/-- Users are in groups, by memberships that have no column for the user. A relation across, on
the table that follows, has no source. -/
def lostMemberships : Catalog where
  schemas :=
    [⟨"public",
      [⟨"memberships", [numberColumn "group_id"], []⟩,
        ⟨"users", [numberColumn "id"],
          [⟨.manyToMany, "users", none, "groups", ⟨"memberships_user_fk", ["user_id"],
            [.column "id"]⟩, some ⟨"memberships", ⟨"memberships_group_fk", ["group_id"],
              [.column "id"]⟩⟩⟩]⟩,
        ⟨"groups", [numberColumn "id"],
          [⟨.manyToOne, "group", some "crm", "owners", ⟨"groups_owner_fk", ["owner_id"],
            [.column "id"]⟩, none⟩]⟩]⟩,
      ⟨"crm", [⟨"owners", [numberColumn "id"], []⟩]⟩]

/-- The error is on the join table, which owns the key. -/
theorem validation_errors_true_memberships :
    lostMemberships.validate =
      .error (.unknownForeignKeyColumn "memberships" "memberships_user_fk" "user_id") ∧
    (CatalogError.unknownForeignKeyColumn "memberships" "memberships_user_fk" "user_id").TrueOf
      lostMemberships := by
  have herror : lostMemberships.validate =
      .error (.unknownForeignKeyColumn "memberships" "memberships_user_fk" "user_id") := rfl
  refine ⟨herror, (validation_errors_true lostMemberships _ herror).resolve_right fun h => ?_⟩
  -- A misreport names a table of another schema.
  cases h

/-- An order belongs to a user, who is in another schema. The relation misspells its source. -/
def misspelledOrder : Catalog where
  schemas :=
    [⟨"public",
      [⟨"orders", [numberColumn "user_id"],
        [⟨.manyToOne, "order", some "crm", "users", ⟨"orders_user_fk", ["user_id"],
          [.column "id"]⟩, none⟩]⟩]⟩,
      ⟨"crm", [⟨"users", [numberColumn "id"], []⟩]⟩]

/-- **A present table reported as unknown.** What is missing is the source of the relation, and the
error names its target. -/
theorem present_table_reported_unknown :
    misspelledOrder.validate = .error (.unknownRelationTable "orders" "crm.users") ∧
    misspelledOrder.HasTable "crm" "users" ∧
    ¬(CatalogError.unknownRelationTable "orders" "crm.users").TrueOf misspelledOrder := by
  have hpresent : misspelledOrder.HasTable "crm" "users" := ⟨_, rfl, List.mem_singleton_self _⟩
  refine ⟨rfl, hpresent, ?_⟩
  rintro ⟨schema, hschema, table, htable, hname, relation, hrelation, htrue⟩
  -- The only relation of the catalog leads to the users.
  obtain ⟨hacross, htarget⟩ :
      relation.targetSchema = some "crm" ∧ relation.targetTable = "users" := by
    simp only [misspelledOrder, List.mem_cons, List.not_mem_nil, or_false] at hschema
    obtain rfl | rfl := hschema
    · obtain rfl := List.mem_singleton.1 htable
      obtain rfl := List.mem_singleton.1 hrelation
      exact ⟨rfl, rfl⟩
    · obtain rfl := List.mem_singleton.1 htable
      exact absurd hrelation List.not_mem_nil
  -- What the error could say truly: a table of its own schema is missing, or the target is.
  obtain ⟨hstays, -⟩ | ⟨target, htargetSchema, -, habsent⟩ := htrue
  · exact Option.some_ne_none _ (hacross.symm.trans hstays)
  · obtain rfl : "crm" = target := Option.some.inj (hacross.symm.trans htargetSchema)
    rw [htarget] at habsent
    exact habsent hpresent

end SchemaDiagram
