import SchemaDiagram.Catalog.Filter
import SchemaDiagram.Proofs.Narrowing

/-!
# Selecting tables before and after building

Dropping tables from a built schema gives the schema that is built when the rows of these
tables are never loaded. `Restricts` says what the smaller list of rows looks like; it narrows
the larger one to the kept tables (`Restricts.narrows`), so its relations are known as soon as
the filter is known to select relations by their keys (`TableFilter.selectsByKeys`): where the
filter drops a relation from one side, a key behind it is missing on the other.
-/

namespace SchemaDiagram

/-! ### Rows without some tables -/

/-- **Restriction.** `loaded` has the same rows of kept tables as `rows`, in the same order, and
none of other tables. Rows that only announce a schema may differ, as long as the schemas are
first mentioned in the same order. -/
structure Restricts (keep : TableRef → Bool) (rows loaded : List Row) : Prop where
  schemas : schemaNames loaded = schemaNames rows
  tables : (loaded.filter fun row => row.owner?.isSome) = rows.filter fun row => row.owner?.any keep

/-- Announcing all schemas first and leaving out the rows of the other tables restricts a list
of rows to the kept tables. -/
theorem restricts_announced (keep : TableRef → Bool) (rows : List Row) :
    Restricts keep rows
      ((schemaNames rows).map Row.schema ++ rows.filter fun row => row.owner?.all keep) where
  schemas := by
    have hannounced : ((schemaNames rows).map Row.schema).map Row.schemaName =
        schemaNames rows := by
      rw [List.map_map]
      exact List.map_id' _
    -- After the announcements no row mentions a schema for the first time.
    have hnew : ((rows.filter fun row => row.owner?.all keep).map Row.schemaName).removeAll
        (schemaNames rows) = [] := by
      rw [List.removeAll, List.filter_eq_nil_iff]
      intro name hname
      obtain ⟨row, hrow, rfl⟩ := List.mem_map.1 hname
      have hmem : row.schemaName ∈ schemaNames rows :=
        mem_schemaNames.2 ⟨row, (List.mem_filter.1 hrow).1, rfl⟩
      simpa using hmem
    rw [schemaNames, List.map_append, hannounced, List.eraseDups_append, hnew, List.eraseDups_nil,
      List.append_nil]
    exact eraseDups_of_nodup (schemaNames_nodup rows)
  tables := by
    have hannounced : ((schemaNames rows).map Row.schema).filter
        (fun row => row.owner?.isSome) = [] := by
      rw [List.filter_eq_nil_iff]
      intro row hrow
      obtain ⟨name, -, rfl⟩ := List.mem_map.1 hrow
      -- An announcement has no table.
      simp [Row.owner?, Row.tableName?]
    rw [List.filter_append, hannounced, List.nil_append, List.filter_filter]
    refine List.filter_congr fun row _ => ?_
    -- A row passes both filters just in case it has an owner that is kept.
    cases row.owner? <;> simp

/-- A restriction narrows the rows to those of the kept tables. -/
theorem Restricts.narrows {keep : TableRef → Bool} {rows loaded : List Row}
    (h : Restricts keep rows loaded) : Narrows keep rows loaded := by
  have hrows : SameTableRows keep rows loaded := h.tables
  exact hrows.narrows (fun _ => true) (fun _ _ => rfl) (by rw [h.schemas])

/-! ### Which relations stay -/

namespace TableFilter

/-- The filter, applied to the schema of this name, keeps a table: all tables of other schemas
and the selected ones of this schema. -/
def keepsTable (f : TableFilter) (name : String) (ref : TableRef) : Bool :=
  decide (ref.schema ≠ name) || f.selects ref.table

/-- The names of the tables that stay in a built schema. -/
def keptTables (f : TableFilter) (rows : List Row) (name : String) : List String :=
  (tableNames rows name).filter f.selects

variable {f : TableFilter} {rows : List Row} {name : String}

theorem keepsTable_of_schema {ref : TableRef} (h : ref.schema = name) :
    f.keepsTable name ref = f.selects ref.table := by
  rw [keepsTable, h]
  simp

/-- A registered table of the schema stays just in case it is kept. -/
theorem mem_keptTables {ref : TableRef} (href : Registered rows ref) (h : ref.schema = name) :
    ref.table ∈ f.keptTables rows name ↔ f.keepsTable name ref := by
  subst h
  rw [keptTables, List.mem_filter, keepsTable_of_schema rfl, mem_tableNames]
  exact and_iff_right href

/-- An end of a relation whose schema is named if it is another one stays just in case the
table is kept. -/
theorem keepsEnd {ref : TableRef} (href : Registered rows ref) {target : Option String}
    (h : target = if name = ref.schema then none else some ref.schema) :
    (target.isSome || decide (ref.table ∈ f.keptTables rows name)) = f.keepsTable name ref := by
  -- In the schema itself the table is looked up, and in another one it stays without lookup.
  by_cases hs : ref.schema = name
  · rw [h, if_pos hs.symm, Option.isSome_none, Bool.false_or, Bool.eq_iff_iff,
      decide_eq_true_iff, mem_keptTables href hs]
  · rw [h, if_neg (Ne.symm hs), keepsTable]
    simp [hs]

/-- A many-to-one relation at a kept table stays with its target. -/
theorem keepsRelation_manyToOne {key : KeyRef} (hkey : key.Kept rows)
    (hschema : key.owner.schema = name) (hkeep : f.keepsTable name key.owner) :
    keepsRelation (f.keptTables rows name) (key.manyToOne rows) =
      f.keepsTable name (key.target rows) := by
  have hsource : (key.manyToOne rows).sourceTable ∈ f.keptTables rows name :=
    (mem_keptTables hkey.1.registered hschema).2 hkeep
  -- A many-to-one relation names the schema of its target if that is another one.
  have htarget : ((key.manyToOne rows).targetSchema.isSome ||
      decide ((key.manyToOne rows).targetTable ∈ f.keptTables rows name)) =
        f.keepsTable name (key.target rows) := keepsEnd hkey.2 (by rw [← hschema]; rfl)
  rw [keepsRelation, decide_eq_true hsource, Bool.true_and, ← htarget]
  exact Bool.and_true _

/-- A one-to-many relation at a kept table stays with the table that holds the key. -/
theorem keepsRelation_oneToMany {key : KeyRef} (hkey : key.Kept rows)
    (hschema : (key.target rows).schema = name) (hkeep : f.keepsTable name (key.target rows)) :
    keepsRelation (f.keptTables rows name) (key.oneToMany rows) =
      f.keepsTable name key.owner := by
  have hsource : (key.oneToMany rows).sourceTable ∈ f.keptTables rows name :=
    (mem_keptTables hkey.2 hschema).2 hkeep
  -- A one-to-many relation names the schema of the owner if that is another one.
  have htarget : ((key.oneToMany rows).targetSchema.isSome ||
      decide ((key.oneToMany rows).targetTable ∈ f.keptTables rows name)) =
        f.keepsTable name key.owner := keepsEnd hkey.1.registered (by rw [← hschema]; rfl)
  rw [keepsRelation, decide_eq_true hsource, Bool.true_and, ← htarget]
  exact Bool.and_true _

/-- A many-to-many relation at a kept table stays with its target and its join table. -/
theorem keepsRelation_manyToMany {near far : KeyRef} (hnear : near.Kept rows)
    (hfar : far.Kept rows) (howner : near.owner.schema = name)
    (htarget : (near.target rows).schema = name) (htarget' : (far.target rows).schema = name)
    (hkeep : f.keepsTable name (near.target rows)) :
    keepsRelation (f.keptTables rows name) (near.manyToMany rows far) =
      (f.keepsTable name (far.target rows) && f.keepsTable name near.owner) := by
  -- None of the three tables is in another schema, so all of them are looked up.
  have hmem : ∀ ref, Registered rows ref → ref.schema = name →
      decide (ref.table ∈ f.keptTables rows name) = f.keepsTable name ref := by
    intro ref href hs
    rw [Bool.eq_iff_iff, decide_eq_true_iff, mem_keptTables href hs]
  rw [← hmem _ hfar.2 htarget', ← hmem _ hnear.1.registered howner, keepsRelation]
  change (decide ((near.target rows).table ∈ f.keptTables rows name) &&
    decide ((far.target rows).table ∈ f.keptTables rows name) &&
      decide (near.owner.table ∈ f.keptTables rows name)) = _
  rw [hmem _ hnear.2 htarget, hkeep, Bool.true_and]

/-- **The filter selects relations by their keys.** -/
theorem selectsByKeys {ref : TableRef} (hschema : ref.schema = name)
    (hkeep : f.keepsTable name ref) :
    SelectsByKeys (f.keepsTable name) rows ref (keepsRelation (f.keptTables rows name)) where
  manyToOne key hkept howner := by
    subst howner
    rw [keepsRelation_manyToOne hkept hschema hkeep, KeyRef.keptBy, hkeep, Bool.true_and]
  oneToMany key hkept htarget := by
    subst htarget
    rw [keepsRelation_oneToMany hkept hschema hkeep, KeyRef.keptBy, hkeep, Bool.and_true]
  manyToMany near far hnear hfar howner hjoin hfarTarget htarget := by
    subst htarget
    -- The target of the near key is kept, and both keys are on the join table.
    rw [keepsRelation_manyToMany hnear hfar (hjoin.trans hschema) hschema
      (hfarTarget.trans hschema) hkeep, KeyRef.keptBy, KeyRef.keptBy, hkeep, howner,
      Bool.and_true, ← Bool.and_assoc, Bool.and_self, Bool.and_comm]

end TableFilter

/-! ### Filtering a built schema -/

namespace TableFilter

variable {f : TableFilter}

/-- A filter without patterns selects every table. -/
theorem selects_of_isEmpty (h : f.isEmpty) (table : String) : f.selects table := by
  rw [isEmpty, Bool.and_eq_true] at h
  obtain ⟨hincludes, hexcludes⟩ := h
  rw [List.isEmpty_iff] at hexcludes
  rw [selects, hincludes, hexcludes]
  rfl

/-- A filter that selects every table drops no relation of a built table. -/
theorem keepsRelation_of_selects {rows : List Row} {name : String} {ref : TableRef}
    {relation : Relation} (h : ∀ table, f.selects table) (hschema : ref.schema = name)
    (hat : RelationAt rows ref relation) :
    keepsRelation (f.keptTables rows name) relation := by
  subst hschema
  have hkeep : ∀ other, f.keepsTable ref.schema other := fun other => by
    rw [keepsTable, h, Bool.or_true]
  -- All tables are kept, so the condition on the keys of the relation holds.
  cases hat with
  | manyToOne key kept owner =>
    subst owner
    exact (keepsRelation_manyToOne kept rfl (hkeep _)).trans (hkeep _)
  | oneToMany key kept target =>
    subst target
    exact (keepsRelation_oneToMany kept rfl (hkeep _)).trans (hkeep _)
  | manyToMany near far keptNear keptFar ne owner schema inner target =>
    subst target
    rw [keepsRelation_manyToMany keptNear keptFar schema rfl inner (hkeep _), hkeep, hkeep]
    rfl

/-- **Filtering a built schema** restricts its tables and the relations of each of them, also
where the filter has no pattern and leaves the schema as it is. -/
theorem apply_builtSchema (f : TableFilter) (rows : List Row) (name : String) :
    f.apply (builtSchema rows name) =
      { name
        tables := (f.keptTables rows name).map fun table =>
          { builtTable rows ⟨name, table⟩ with
            relations := (builtTable rows ⟨name, table⟩).relations.filter
              (keepsRelation (f.keptTables rows name)) } } := by
  by_cases hempty : f.isEmpty
  · -- Nothing is filtered then, and filtering would have changed nothing.
    have hselects := selects_of_isEmpty hempty
    have hall : f.keptTables rows name = tableNames rows name :=
      List.filter_eq_self.2 fun table _ => hselects table
    have hrelations : ∀ table, (builtTable rows ⟨name, table⟩).relations.filter
        (keepsRelation (f.keptTables rows name)) = (builtTable rows ⟨name, table⟩).relations := by
      intro table
      refine List.filter_eq_self.2 fun relation hrelation => ?_
      have hat : RelationAt rows ⟨name, table⟩ relation := relationAt_of_mem hrelation
      exact keepsRelation_of_selects hselects rfl hat
    rw [apply, if_pos hempty, builtSchema]
    simp only [hrelations]
    rw [hall]
  · -- Otherwise the names that stay are selected first, and then the tables by these names.
    have hkept : (builtSchema rows name).tableNames.filter f.selects = f.keptTables rows name := by
      rw [builtSchema_tableNames, keptTables]
    have htables : (tableNames rows name).filter
        ((fun table : Table => decide (table.name ∈ f.keptTables rows name)) ∘
          fun table => builtTable rows ⟨name, table⟩) = f.keptTables rows name := by
      refine List.filter_congr fun table htable => ?_
      rw [Function.comp_apply, builtTable_name, Bool.eq_iff_iff, decide_eq_true_iff, keptTables,
        List.mem_filter]
      -- The table is registered, so only the pattern decides.
      exact and_iff_right htable
    rw [apply, if_neg hempty]
    simp only [hkept]
    rw [builtSchema_tables, List.filter_map, htables, List.map_map]
    rfl

end TableFilter

/-- The built schema of a restriction is the filtered one. -/
theorem Restricts.builtSchema_eq {f : TableFilter} {rows loaded : List Row} {name : String}
    (h : Restricts (f.keepsTable name) rows loaded) :
    builtSchema loaded name = f.apply (builtSchema rows name) := by
  have hnarrows := h.narrows
  have hnames : tableNames loaded name = f.keptTables rows name := by
    rw [hnarrows.tableRows.tableNames_eq]
    exact List.filter_congr fun table _ => TableFilter.keepsTable_of_schema rfl
  rw [TableFilter.apply_builtSchema, builtSchema, hnames]
  congr 1
  refine List.map_congr_left fun table htable => ?_
  -- The table stays, so its relations are selected by their keys.
  have hkeep : f.keepsTable name ⟨name, table⟩ :=
    (TableFilter.keepsTable_of_schema rfl).trans (List.mem_filter.1 htable).2
  rw [← hnarrows.builtTable_relations_eq (TableFilter.selectsByKeys rfl hkeep)]
  change (⟨table, columnsOf (rowsOf loaded _), _⟩ : Table) = ⟨table, columnsOf (rowsOf rows _), _⟩
  rw [hnarrows.tableRows.rowsOf_of_keep hkeep]
  rfl

/-- **Filtering commutes with building.** A schema that is filtered after the relations have
been derived is the schema that is built from rows without those of the rejected tables: same
tables, columns and relations, in the same order. Such rows are, for example, all schemas
announced first and then the given rows less those of the rejected tables. -/
theorem filter_commutes_with_build (f : TableFilter) (rows : List Row) (name : String)
    (hname : ∃ row ∈ rows, row.schemaName = name) :
    (∀ loaded, Restricts (f.keepsTable name) rows loaded →
      ∃ schema, (Catalog.build rows).schema? name = some schema ∧
        (Catalog.build loaded).schema? name = some (f.apply schema)) ∧
    Restricts (f.keepsTable name) rows ((schemaNames rows).map Row.schema ++
      rows.filter fun row => row.owner?.all (f.keepsTable name)) := by
  refine ⟨fun loaded h => ⟨builtSchema rows name, build_schema? hname, ?_⟩,
    restricts_announced _ rows⟩
  -- The restriction announces the same schemas.
  have hloaded : ∃ row ∈ loaded, row.schemaName = name := by
    rwa [← mem_schemaNames, h.schemas, mem_schemaNames]
  rw [build_schema? hloaded, h.builtSchema_eq]

/-- The filter that excludes the tables whose name starts with an `m`. -/
def withoutMemberships : TableFilter where
  includes := []
  excludes := [⟨[.literal 'm', .anySequence]⟩]

/-- Without the join table, the relations between users and groups are gone on both ways. -/
theorem filter_commutes_with_build_memberships :
    withoutMemberships.selects "memberships" = false ∧ withoutMemberships.selects "groups" = true ∧
    ∃ schema, (Catalog.build membershipRows).schema? "public" = some schema ∧
      (Catalog.build ((schemaNames membershipRows).map Row.schema ++ membershipRows.filter
        fun row => row.owner?.all (withoutMemberships.keepsTable "public"))).schema? "public" =
          some (withoutMemberships.apply schema) := by
  have hpublic : ∃ row ∈ membershipRows, row.schemaName = "public" :=
    ⟨.table "public" "users", by simp [membershipRows], rfl⟩
  obtain ⟨hcommutes, hrestricts⟩ :=
    filter_commutes_with_build withoutMemberships membershipRows "public" hpublic
  exact ⟨by decide, by decide, hcommutes _ hrestricts⟩

end SchemaDiagram
