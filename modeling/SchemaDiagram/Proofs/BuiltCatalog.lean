import SchemaDiagram.Proofs.Derivation

/-!
# The shape of a built catalog

A built catalog has one schema for each schema that the rows mention and in it one table for
each registered table. `builtSchema` names these schemas, the lemmas below say what looking up
names in a built catalog finds, and `RelationAt` inverts the derivation: each relation of a
built table comes from kept keys in one of three ways.
-/

namespace SchemaDiagram

/-! ### Schemas and tables -/

/-- The table that a catalog built from the rows has under this reference. -/
def builtTable (rows : List Row) (ref : TableRef) : Table :=
  buildTable rows (deriveRelations (links rows)) ref

/-- The schema that a catalog built from the rows has under this name. -/
def builtSchema (rows : List Row) (name : String) : Schema :=
  { name, tables := (tableNames rows name).map fun table => builtTable rows ⟨name, table⟩ }

/-- The schemas stand in the order of their first mention. -/
theorem build_schemas (rows : List Row) :
    (Catalog.build rows).schemas = (schemaNames rows).map (builtSchema rows) := rfl

/-- A built table has the name of its reference. -/
@[simp] theorem builtTable_name (rows : List Row) (ref : TableRef) :
    (builtTable rows ref).name = ref.table := rfl

/-- Its columns are those of its rows. -/
@[simp] theorem builtTable_columns (rows : List Row) (ref : TableRef) :
    (builtTable rows ref).columns = columnsOf (rowsOf rows ref) := rfl

/-- Its relations are those that the kept keys give it. -/
theorem builtTable_relations (rows : List Row) (ref : TableRef) :
    (builtTable rows ref).relations =
      relationsFrom rows (keptKeys rows) (tableNames rows ref.schema) ref :=
  buildTable_relations rows ref

/-- A built schema has the name that it was built under. -/
@[simp] theorem builtSchema_name (rows : List Row) (name : String) :
    (builtSchema rows name).name = name := rfl

/-- Its tables are the registered ones, by name. -/
theorem builtSchema_tables (rows : List Row) (name : String) :
    (builtSchema rows name).tables =
      (tableNames rows name).map fun table => builtTable rows ⟨name, table⟩ := rfl

/-- Its table names are those of the rows. -/
@[simp] theorem builtSchema_tableNames (rows : List Row) (name : String) :
    (builtSchema rows name).tableNames = tableNames rows name := by
  rw [Schema.tableNames, builtSchema, List.map_map]
  exact List.map_id' _

/-- **Schemas of a built catalog.** -/
theorem mem_build_schemas {rows : List Row} {schema : Schema} :
    schema ∈ (Catalog.build rows).schemas ↔
      ∃ name, (∃ row ∈ rows, row.schemaName = name) ∧ schema = builtSchema rows name := by
  rw [build_schemas, List.mem_map]
  simp only [mem_schemaNames, eq_comm]

/-- **Tables of a built schema.** -/
theorem mem_builtSchema_tables {rows : List Row} {name : String} {table : Table} :
    table ∈ (builtSchema rows name).tables ↔
      ∃ t, Registered rows ⟨name, t⟩ ∧ table = builtTable rows ⟨name, t⟩ := by
  rw [builtSchema, List.mem_map]
  simp only [mem_tableNames, eq_comm]

/-- A schema that the rows mention is found under its name. -/
theorem build_schema? {rows : List Row} {name : String} (h : ∃ row ∈ rows, row.schemaName = name) :
    (Catalog.build rows).schema? name = some (builtSchema rows name) :=
  find?_map_of_name Schema.name (builtSchema rows) (fun _ => rfl) (mem_schemaNames.2 h)

/-- A registered table is found under its name. -/
theorem builtSchema_table? {rows : List Row} {ref : TableRef} (h : Registered rows ref) :
    (builtSchema rows ref.schema).table? ref.table = some (builtTable rows ref) :=
  find?_map_of_name Table.name (fun table => builtTable rows ⟨ref.schema, table⟩) (fun _ => rfl)
    (mem_tableNames.2 h)

/-- The schema of a registered table is mentioned. -/
theorem Registered.mentioned {rows : List Row} {ref : TableRef} (h : Registered rows ref) :
    ∃ row ∈ rows, row.schemaName = ref.schema := by
  obtain ⟨row, hrow, howner⟩ := h
  exact ⟨row, hrow, (Row.owner?_eq_some.1 howner).1⟩

/-- The registered tables are those of the built catalog. -/
theorem registered_iff_mem_build {rows : List Row} {ref : TableRef} :
    Registered rows ref ↔ ∃ schema ∈ (Catalog.build rows).schemas,
      schema.name = ref.schema ∧ ref.table ∈ schema.tableNames := by
  constructor
  · intro h
    refine ⟨_, mem_build_schemas.2 ⟨ref.schema, h.mentioned, rfl⟩, rfl, ?_⟩
    rw [builtSchema_tableNames]
    exact mem_tableNames.2 h
  · -- A schema of the catalog is the one built under its name, and its tables are the registered.
    rintro ⟨schema, hschema, hname, htable⟩
    obtain ⟨name, -, rfl⟩ := mem_build_schemas.1 hschema
    rw [builtSchema_name] at hname
    subst hname
    rw [builtSchema_tableNames] at htable
    exact mem_tableNames.1 htable

/-! ### The relations of a table -/

/-- **Relation at a table,** with a case for each way in which kept keys give it one. -/
inductive RelationAt (rows : List Row) (ref : TableRef) : Relation → Prop
  /-- The table holds the key. -/
  | manyToOne (key : KeyRef) (kept : key.Kept rows) (owner : key.owner = ref) :
      RelationAt rows ref (key.manyToOne rows)
  /-- The key targets the table. -/
  | oneToMany (key : KeyRef) (kept : key.Kept rows) (target : key.target rows = ref) :
      RelationAt rows ref (key.oneToMany rows)
  /-- The near one of two inner keys of a join table of the schema targets the table. -/
  | manyToMany (near far : KeyRef) (keptNear : near.Kept rows) (keptFar : far.Kept rows)
      (ne : far ≠ near) (owner : far.owner = near.owner)
      (schema : near.owner.schema = ref.schema) (inner : (far.target rows).schema = ref.schema)
      (target : near.target rows = ref) :
      RelationAt rows ref (near.manyToMany rows far)

/-- A direct relation comes from a key that the table holds or that leads to it. -/
theorem relationAt_of_mem_direct {rows : List Row} {ref : TableRef} {relation : Relation}
    (h : relation ∈ directRelations rows (keptKeys rows) ref) : RelationAt rows ref relation := by
  obtain ⟨key, hkey, hrel⟩ := List.mem_flatMap.1 h
  have hkept := mem_keptKeys.1 hkey
  rw [List.mem_append] at hrel
  -- The two cases of a direct relation; a key from the table to itself gives both.
  rcases hrel with hrel | hrel
  · obtain ⟨howner, hrel⟩ := List.mem_ite_nil_right.1 hrel
    rw [List.mem_singleton.1 hrel]
    exact .manyToOne key hkept howner
  · obtain ⟨htarget, hrel⟩ := List.mem_ite_nil_right.1 hrel
    rw [List.mem_singleton.1 hrel]
    exact .oneToMany key hkept htarget

/-- A joined relation comes from two inner keys of the join table. -/
theorem relationAt_of_mem_joined {rows : List Row} {ref joinTable : TableRef}
    {relation : Relation} (hschema : joinTable.schema = ref.schema)
    (h : relation ∈ joinedRelations rows (keptKeys rows) ref joinTable) :
    RelationAt rows ref relation := by
  obtain ⟨near, hnear, hrel⟩ := List.mem_flatMap.1 h
  obtain ⟨far, hfar, rfl⟩ := List.mem_map.1 hrel
  -- The near key ends at the table; the far key is another one of the same join table.
  rw [List.mem_filter, mem_innerKeys, decide_eq_true_iff] at hnear hfar
  obtain ⟨⟨hnear, howner, -⟩, htarget⟩ := hnear
  obtain ⟨⟨hfar, howner', hinner⟩, hne⟩ := hfar
  exact .manyToMany near far hnear hfar hne (howner'.trans howner.symm)
    ((congrArg TableRef.schema howner).trans hschema) (hinner.trans hschema) htarget

/-- **Inversion.** Each relation of a built table comes from kept keys in one of three ways. -/
theorem relationAt_of_mem {rows : List Row} {ref : TableRef} {relation : Relation}
    (h : relation ∈ (builtTable rows ref).relations) : RelationAt rows ref relation := by
  rw [builtTable_relations, relationsFrom, List.mem_append] at h
  rcases h with h | h
  · exact relationAt_of_mem_direct h
  · obtain ⟨table, -, h⟩ := List.mem_flatMap.1 h
    have hschema : (TableRef.mk ref.schema table).schema = ref.schema := rfl
    exact relationAt_of_mem_joined hschema h

/-- A kept key gives a many-to-one relation at the table that holds it. -/
theorem manyToOne_mem {rows : List Row} {key : KeyRef} (h : key.Kept rows) :
    key.manyToOne rows ∈ (builtTable rows key.owner).relations := by
  have hdirect : key.manyToOne rows ∈ directRelations rows (keptKeys rows) key.owner := by
    rw [directRelations, List.mem_flatMap]
    exact ⟨key, mem_keptKeys.2 h, by simp⟩
  rw [builtTable_relations, relationsFrom]
  exact List.mem_append_left _ hdirect

namespace RelationAt

variable {rows : List Row} {ref : TableRef} {relation : Relation}

/-- A relation starts at its table. -/
theorem sourceTable (h : RelationAt rows ref relation) : relation.sourceTable = ref.table := by
  cases h with
  | manyToOne key kept owner => exact congrArg TableRef.table owner
  | oneToMany key kept target => exact congrArg TableRef.table target
  | manyToMany near far _ _ _ _ _ _ target => exact congrArg TableRef.table target

/-- A relation names a target schema only if that is another one. -/
theorem targetSchema_ne (h : RelationAt rows ref relation) :
    relation.targetSchema ≠ some ref.schema := by
  cases h with
  | manyToOne key kept owner =>
    -- A key into the schema of its own table leaves the schema unnamed.
    subst owner
    simp only [KeyRef.manyToOne]
    split <;> simp_all [eq_comm]
  | oneToMany key kept target =>
    subst target
    simp only [KeyRef.oneToMany]
    split <;> simp_all [eq_comm]
  | manyToMany => simp [KeyRef.manyToMany]

/-- The target of a relation, in the schema that it names or else in its own, is registered. -/
theorem target_registered (h : RelationAt rows ref relation) :
    Registered rows ⟨relation.targetSchema.getD ref.schema, relation.targetTable⟩ := by
  cases h with
  | manyToOne key kept owner =>
    subst owner
    -- The schema is left out just where it is the one of the table.
    have hschema : (key.manyToOne rows).targetSchema.getD key.owner.schema =
        (key.target rows).schema := by
      simp only [KeyRef.manyToOne]
      split <;> simp_all
    rw [hschema]
    exact kept.2
  | oneToMany key kept target =>
    subst target
    have hschema : (key.oneToMany rows).targetSchema.getD (key.target rows).schema =
        key.owner.schema := by
      simp only [KeyRef.oneToMany]
      split <;> simp_all
    rw [hschema]
    exact kept.1.registered
  | manyToMany near far _ kept _ _ _ inner _ =>
    have hregistered : Registered rows (far.target rows) := kept.2
    change Registered rows ⟨ref.schema, (far.target rows).table⟩
    rw [← inner]
    exact hregistered

end RelationAt

/-! ### Exact derivation -/

/-- **Exact derivation of relations.** The kept and the skipped keys are all described keys,
parted by whether the target is registered, in the order of keys. Each skipped key gives one
warning. The tables of the catalog are the registered tables, by name in each schema; the
relations of each are the direct ones of the kept keys, key by key, and then for each table of
the schema those that join through it. All of them start at the table, and they name a target
schema just in case the target lies in another one. -/
theorem build_relations_exact (rows : List Row) :
    ((∀ key, key ∈ keptKeys rows ↔ key.Kept rows) ∧
      (keptKeys rows).Pairwise (KeyRef.Before rows)) ∧
    ((∀ key, key ∈ skippedKeys rows ↔ key.Described rows ∧ ¬key.Kept rows) ∧
      (skippedKeys rows).Pairwise (KeyRef.Before rows)) ∧
    buildWarnings rows = (skippedKeys rows).map (fun key =>
      .skippedForeignKey key.name (key.target rows).schema (key.target rows).table) ∧
    (∀ ref, Registered rows ref ↔ ∃ schema ∈ (Catalog.build rows).schemas,
      schema.name = ref.schema ∧ ref.table ∈ schema.tableNames) ∧
    ∀ schema ∈ (Catalog.build rows).schemas, schema.tableNames.Pairwise (· < ·) ∧
      ∀ table ∈ schema.tables,
        table.relations =
          relationsFrom rows (keptKeys rows) schema.tableNames ⟨schema.name, table.name⟩ ∧
        ∀ relation ∈ table.relations, relation.sourceTable = table.name ∧
          relation.targetSchema ≠ some schema.name ∧
          Registered rows ⟨relation.targetSchema.getD schema.name, relation.targetTable⟩ := by
  refine ⟨⟨fun key => mem_keptKeys, keptKeys_pairwise rows⟩, ⟨fun key => ?_,
    skippedKeys_pairwise rows⟩, buildWarnings_eq rows, fun ref => registered_iff_mem_build, ?_⟩
  · rw [mem_skippedKeys, KeyRef.Kept]
    exact and_congr_right fun hkey => by rw [not_and, imp_iff_right hkey]
  · intro schema hschema
    obtain ⟨name, -, rfl⟩ := mem_build_schemas.1 hschema
    rw [builtSchema_tableNames]
    refine ⟨tableNames_pairwise rows name, fun table htable => ?_⟩
    obtain ⟨t, -, rfl⟩ := mem_builtSchema_tables.1 htable
    -- The rest is said of a single relation, by the way in which its keys give it.
    refine ⟨builtTable_relations rows ⟨name, t⟩, fun relation hrelation => ?_⟩
    have hat := relationAt_of_mem hrelation
    exact ⟨hat.sourceTable, hat.targetSchema_ne, hat.target_registered⟩

/-- The rows of a join table between two tables, before the rows of the tables themselves; a
third key leads to a table that is not registered. -/
def membershipRows : List Row :=
  [.foreignKey ⟨"public", "memberships", "user_key", "public", "users", "user_id", 1⟩,
    .foreignKey ⟨"public", "memberships", "group_key", "public", "groups", "group_id", 1⟩,
    .foreignKey ⟨"public", "memberships", "audit_key", "audit", "events", "event_id", 1⟩,
    .table "public" "users", .table "public" "groups"]

/-- The third key is skipped, and the relations of the groups are the exact ones. -/
theorem build_relations_exact_membership :
    ⟨⟨"public", "memberships"⟩, "audit_key"⟩ ∈ skippedKeys membershipRows ∧
    ∃ schema ∈ (Catalog.build membershipRows).schemas, ∃ table ∈ schema.tables,
      table.name = "groups" ∧
      table.relations = relationsFrom membershipRows (keptKeys membershipRows)
        schema.tableNames ⟨"public", "groups"⟩ := by
  obtain ⟨-, ⟨hskipped, -⟩, -, -, hbuilt⟩ := build_relations_exact membershipRows
  refine ⟨(hskipped _).2 (by decide), ?_⟩
  have hgroups : Registered membershipRows ⟨"public", "groups"⟩ := by decide
  have hschema := mem_build_schemas.2 ⟨"public", hgroups.mentioned, rfl⟩
  have htable := mem_builtSchema_tables.2 ⟨"groups", hgroups, rfl⟩
  exact ⟨_, hschema, _, htable, rfl, ((hbuilt _ hschema).2 _ htable).1⟩

end SchemaDiagram
