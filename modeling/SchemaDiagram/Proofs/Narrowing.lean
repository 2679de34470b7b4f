import SchemaDiagram.Proofs.BuiltCatalog

/-!
# Loading the rows of some tables only

A catalog can be built from all rows, or from the rows of the tables that are kept. Here the two
are compared, whatever decides which tables are kept:

* `SameTableRows`: the smaller list has the same rows of kept tables and no rows of others;
* `Narrows`: besides, it registers its tables in the same order;
* `KeyRef.keptBy`: both tables of a key are kept. These are the keys of the smaller list
  (`Narrows.keptKeys_eq`), with the same targets and columns as before;
* `SelectsByKeys`: a test that a relation of a kept table passes just in case its keys are kept.

`Narrows.builtTable_relations_eq` puts these together: the relations of a kept table that the
smaller list gives are those of the larger one that pass such a test, in the same order. What
the relations look like is of no concern to the proof, only from which keys they come.
-/

namespace SchemaDiagram

/-! ### Rows of kept tables -/

/-- **Same table rows.** `loaded` has the same rows of kept tables as `rows`, in the same order,
and none of other tables. Rows that only announce a schema do not count. -/
def SameTableRows (keep : TableRef → Bool) (rows loaded : List Row) : Prop :=
  (loaded.filter fun row => row.owner?.isSome) = rows.filter fun row => row.owner?.any keep

/-- **Narrowing.** `loaded` has the same rows of kept tables as `rows` and registers these tables
in the same order. -/
structure Narrows (keep : TableRef → Bool) (rows loaded : List Row) : Prop where
  tableRows : SameTableRows keep rows loaded
  registered : registered loaded = (registered rows).filter keep

namespace SameTableRows

variable {keep : TableRef → Bool} {rows loaded : List Row}

/-- The rows of a kept table are all there. -/
theorem rowsOf_of_keep (h : SameTableRows keep rows loaded) {ref : TableRef} (href : keep ref) :
    rowsOf loaded ref = rowsOf rows ref := by
  -- A selection that takes all rows of the table does not matter to them.
  have hown : ∀ (l : List Row) (p : Row → Bool), (∀ row, row.owner? = some ref → p row) →
      rowsOf l ref = rowsOf (l.filter p) ref := by
    intro l p hp
    rw [rowsOf, rowsOf, List.filter_filter]
    refine List.filter_congr fun row _ => ?_
    by_cases ho : row.owner? = some ref
    · simp [ho, hp row ho]
    · simp [ho]
  rw [hown loaded (fun row => row.owner?.isSome) fun row ho => by rw [ho]; rfl, h]
  exact (hown rows (fun row => row.owner?.any keep) fun row ho => by rw [ho]; exact href).symm

/-- The registered tables are those that were registered and are kept. -/
theorem registered_iff (h : SameTableRows keep rows loaded) {ref : TableRef} :
    Registered loaded ref ↔ Registered rows ref ∧ keep ref := by
  have hmem : ∀ row : Row, row.owner? = some ref → (row ∈ loaded ↔ row ∈ rows ∧ keep ref) := by
    intro row ho
    have hloaded : row ∈ (loaded.filter fun row => row.owner?.isSome) ↔ row ∈ loaded := by
      simp [List.mem_filter, ho]
    rw [← hloaded, h, List.mem_filter, ho, Option.any_some]
  constructor
  · -- A row that is left is a row of a kept table.
    rintro ⟨row, hrow, ho⟩
    obtain ⟨hrow, hkeep⟩ := (hmem row ho).1 hrow
    exact ⟨⟨row, hrow, ho⟩, hkeep⟩
  · rintro ⟨⟨row, hrow, ho⟩, hkeep⟩
    exact ⟨row, (hmem row ho).2 ⟨hrow, hkeep⟩, ho⟩

/-- The tables of a schema that are left are those that are kept. -/
theorem tableNames_eq (h : SameTableRows keep rows loaded) (name : String) :
    tableNames loaded name = (tableNames rows name).filter fun table => keep ⟨name, table⟩ := by
  refine eq_of_pairwise_of_mem_iff string_lt_asymm (tableNames_pairwise loaded name)
    ((tableNames_pairwise rows name).filter _) fun table => ?_
  rw [List.mem_filter, mem_tableNames, mem_tableNames, h.registered_iff]

/-- The tables keep their order if the schemas that hold kept tables keep theirs. -/
theorem narrows (h : SameTableRows keep rows loaded) (p : String → Bool)
    (hkeep : ∀ ref, keep ref → p ref.schema)
    (hschemas : (schemaNames loaded).filter p = (schemaNames rows).filter p) :
    Narrows keep rows loaded := by
  refine ⟨h, ?_⟩
  -- Both sides list the kept tables schema by schema, so only schemas with such tables matter.
  have hnone : ∀ name, ¬p name →
      ((tableNames rows name).map (TableRef.mk name)).filter keep = [] := by
    intro name hname
    refine List.filter_eq_nil_iff.2 fun ref href hk => hname ?_
    obtain ⟨table, -, rfl⟩ := List.mem_map.1 href
    exact hkeep _ hk
  have htables : ∀ name, (tableNames loaded name).map (TableRef.mk name) =
      ((tableNames rows name).map (TableRef.mk name)).filter keep := by
    intro name
    rw [h.tableNames_eq, List.filter_map]
    rfl
  calc registered loaded
      = (schemaNames loaded).flatMap fun name =>
          ((tableNames rows name).map (TableRef.mk name)).filter keep :=
        List.flatMap_congr fun name _ => htables name
    _ = ((schemaNames loaded).filter p).flatMap fun name =>
          ((tableNames rows name).map (TableRef.mk name)).filter keep :=
        (flatMap_filter_of_nil fun name _ => hnone name).symm
    _ = ((schemaNames rows).filter p).flatMap fun name =>
          ((tableNames rows name).map (TableRef.mk name)).filter keep := by rw [hschemas]
    _ = (schemaNames rows).flatMap fun name =>
          ((tableNames rows name).map (TableRef.mk name)).filter keep :=
        flatMap_filter_of_nil fun name _ => hnone name
    _ = (registered rows).filter keep := List.filter_flatMap.symm

end SameTableRows

/-! ### Keys -/

/-- Both tables of a key are kept. -/
def KeyRef.keptBy (rows : List Row) (keep : TableRef → Bool) (key : KeyRef) : Bool :=
  keep key.owner && keep (key.target rows)

namespace Narrows

variable {keep : TableRef → Bool} {rows loaded : List Row}

/-- The described keys that are left are those of kept tables. -/
theorem allKeys_eq (h : Narrows keep rows loaded) :
    allKeys loaded = (allKeys rows).filter fun key => keep key.owner := by
  -- Table by table: either all its keys stay or none, since the test looks at the table alone.
  rw [allKeys, allKeys, h.registered, flatMap_filter_eq, List.filter_flatMap]
  refine List.flatMap_congr fun ref _ => ?_
  rw [List.filter_map]
  change _ = List.map _ (List.filter (fun _ => keep ref) _)
  -- Which of the two it is depends on the table of the key.
  by_cases href : keep ref
  · rw [if_pos href, h.tableRows.rowsOf_of_keep href, List.filter_eq_self.2 fun _ _ => href]
  · rw [if_neg href, List.filter_eq_nil_iff.2 fun _ _ => href, List.map_nil]

/-- The rows of a key of a kept table are all there. -/
theorem rowsIn_eq (h : Narrows keep rows loaded) {key : KeyRef} (hkey : keep key.owner) :
    key.rowsIn loaded = key.rowsIn rows := by
  rw [← filter_rowsOf, ← filter_rowsOf, h.tableRows.rowsOf_of_keep hkey]

/-- A key of a kept table leads where it led before. -/
theorem target_eq (h : Narrows keep rows loaded) {key : KeyRef} (hkey : keep key.owner) :
    key.target loaded = key.target rows := by
  rw [KeyRef.target, KeyRef.target, h.rowsIn_eq hkey]

/-- It has the columns and index entries that it had. -/
theorem foreignKey_eq (h : Narrows keep rows loaded) {key : KeyRef} (hkey : keep key.owner) :
    key.foreignKey loaded = key.foreignKey rows := by
  rw [KeyRef.foreignKey, KeyRef.foreignKey, h.rowsIn_eq hkey]

/-- **Kept keys of the smaller list:** those of which both tables are kept. -/
theorem keptKeys_eq (h : Narrows keep rows loaded) :
    keptKeys loaded = (keptKeys rows).filter (KeyRef.keptBy rows keep) := by
  rw [keptKeys, keptKeys, h.allKeys_eq, List.filter_filter, List.filter_filter]
  refine List.filter_congr fun key _ => ?_
  -- The target of such a key may be gone all the same, which is what the second test asks for.
  by_cases hkey : keep key.owner
  · simp [hkey, h.target_eq hkey, h.tableRows.registered_iff, KeyRef.keptBy, and_comm]
  · simp [hkey, KeyRef.keptBy]

/-- The inner keys of a join table. -/
theorem innerKeys_eq (h : Narrows keep rows loaded) (joinTable : TableRef) :
    innerKeys loaded (keptKeys loaded) joinTable =
      (innerKeys rows (keptKeys rows) joinTable).filter (KeyRef.keptBy rows keep) := by
  rw [innerKeys, innerKeys, h.keptKeys_eq, List.filter_filter, List.filter_filter]
  refine List.filter_congr fun key _ => ?_
  by_cases hown : keep key.owner
  · rw [h.target_eq hown, Bool.and_comm]
  · simp [KeyRef.keptBy, hown]

/-! ### Relations -/

/-- A key of a kept table gives the same many-to-one relation as before. -/
theorem manyToOne_eq (h : Narrows keep rows loaded) {key : KeyRef} (hkey : keep key.owner) :
    key.manyToOne loaded = key.manyToOne rows := by
  rw [KeyRef.manyToOne, KeyRef.manyToOne, h.target_eq hkey, h.foreignKey_eq hkey]

/-- It also gives the same one-to-many relation. -/
theorem oneToMany_eq (h : Narrows keep rows loaded) {key : KeyRef} (hkey : keep key.owner) :
    key.oneToMany loaded = key.oneToMany rows := by
  rw [KeyRef.oneToMany, KeyRef.oneToMany, h.target_eq hkey, h.foreignKey_eq hkey]

/-- Two keys of kept tables give the same many-to-many relation. -/
theorem manyToMany_eq (h : Narrows keep rows loaded) {near far : KeyRef} (hnear : keep near.owner)
    (hfar : keep far.owner) : near.manyToMany loaded far = near.manyToMany rows far := by
  rw [KeyRef.manyToMany, KeyRef.manyToMany, h.target_eq hnear, h.foreignKey_eq hnear,
    h.target_eq hfar, h.foreignKey_eq hfar]

end Narrows

/-- **Selection by keys.** Of the relations at a table the test takes those whose keys are
kept. -/
structure SelectsByKeys (keep : TableRef → Bool) (rows : List Row) (ref : TableRef)
    (test : Relation → Bool) : Prop where
  manyToOne : ∀ key : KeyRef, key.Kept rows → key.owner = ref →
    test (key.manyToOne rows) = key.keptBy rows keep
  oneToMany : ∀ key : KeyRef, key.Kept rows → key.target rows = ref →
    test (key.oneToMany rows) = key.keptBy rows keep
  manyToMany : ∀ near far : KeyRef, near.Kept rows → far.Kept rows → far.owner = near.owner →
    near.owner.schema = ref.schema → (far.target rows).schema = ref.schema →
    near.target rows = ref →
    test (near.manyToMany rows far) = (near.keptBy rows keep && far.keptBy rows keep)

namespace Narrows

variable {keep : TableRef → Bool} {rows loaded : List Row} {ref : TableRef}
  {test : Relation → Bool}

/-- The direct relations of a table. -/
theorem directRelations_eq (h : Narrows keep rows loaded)
    (htest : SelectsByKeys keep rows ref test) :
    directRelations loaded (keptKeys loaded) ref =
      (directRelations rows (keptKeys rows) ref).filter test := by
  rw [directRelations, directRelations, h.keptKeys_eq, List.filter_flatMap, flatMap_filter_eq]
  refine List.flatMap_congr fun key hkey => ?_
  have hkept := mem_keptKeys.1 hkey
  -- The test gives the same answer on both relations of the key.
  have hmany : ((if key.owner = ref then [key.manyToOne rows] else []).filter test) =
      if key.keptBy rows keep then (if key.owner = ref then [key.manyToOne rows] else [])
        else [] := by
    by_cases ho : key.owner = ref
    · simp only [if_pos ho, List.filter_cons, List.filter_nil, htest.manyToOne key hkept ho]
    · simp only [if_neg ho, List.filter_nil, ite_self]
  have hone : ((if key.target rows = ref then [key.oneToMany rows] else []).filter test) =
      if key.keptBy rows keep then (if key.target rows = ref then [key.oneToMany rows] else [])
        else [] := by
    by_cases ht : key.target rows = ref
    · simp only [if_pos ht, List.filter_cons, List.filter_nil, htest.oneToMany key hkept ht]
    · simp only [if_neg ht, List.filter_nil, ite_self]
  rw [List.filter_append, hmany, hone]
  -- Both relations of the key stay, or neither does.
  by_cases hby : key.keptBy rows keep
  · have hown : keep key.owner := (Bool.and_eq_true_iff.1 hby).1
    rw [if_pos hby, if_pos hby, if_pos hby, h.manyToOne_eq hown, h.oneToMany_eq hown,
      h.target_eq hown]
  · rw [if_neg hby, if_neg hby, if_neg hby, List.append_nil]

/-- The relations of a table through one join table of its schema. -/
theorem joinedRelations_eq (h : Narrows keep rows loaded)
    (htest : SelectsByKeys keep rows ref test) {joinTable : TableRef}
    (hschema : joinTable.schema = ref.schema) :
    joinedRelations loaded (keptKeys loaded) ref joinTable =
      (joinedRelations rows (keptKeys rows) ref joinTable).filter test := by
  have howner : ∀ key ∈ innerKeys rows (keptKeys rows) joinTable, key.owner = joinTable :=
    fun key hkey => (mem_innerKeys.1 hkey).2.1
  -- The near keys of the smaller list are those near keys of which both tables are kept.
  have hnears : ((innerKeys rows (keptKeys rows) joinTable).filter (KeyRef.keptBy rows keep)).filter
        (fun near => decide (near.target loaded = ref)) =
      ((innerKeys rows (keptKeys rows) joinTable).filter
        fun near => decide (near.target rows = ref)).filter (KeyRef.keptBy rows keep) := by
    rw [List.filter_filter, List.filter_filter]
    refine List.filter_congr fun near _ => ?_
    by_cases hby : near.keptBy rows keep
    · rw [h.target_eq (Bool.and_eq_true_iff.1 hby).1, Bool.and_comm]
    · simp [hby]
  rw [joinedRelations, joinedRelations, h.innerKeys_eq, List.filter_flatMap, hnears,
    flatMap_filter_eq]
  refine List.flatMap_congr fun near hnear => ?_
  obtain ⟨hnear, ht⟩ := List.mem_filter.1 hnear
  have htarget : near.target rows = ref := of_decide_eq_true ht
  obtain ⟨hnearKept, hnearOwner, -⟩ := mem_innerKeys.1 hnear
  -- A pair passes the test just in case both its keys are kept.
  have hpair : ∀ far ∈ innerKeys rows (keptKeys rows) joinTable,
      test (near.manyToMany rows far) = (near.keptBy rows keep && far.keptBy rows keep) := by
    intro far hfar
    obtain ⟨hfarKept, hfarOwner, hfarSchema⟩ := mem_innerKeys.1 hfar
    exact htest.manyToMany near far hnearKept hfarKept (hfarOwner.trans hnearOwner.symm)
      (hnearOwner ▸ hschema) (hfarSchema.trans hschema) htarget
  have hpassed : (((innerKeys rows (keptKeys rows) joinTable).filter
        fun far => decide (far ≠ near)).map fun far => near.manyToMany rows far).filter test =
      if near.keptBy rows keep then
        (((innerKeys rows (keptKeys rows) joinTable).filter (KeyRef.keptBy rows keep)).filter
          fun far => decide (far ≠ near)).map fun far => near.manyToMany rows far
      else [] := by
    have hfars : ∀ far ∈ innerKeys rows (keptKeys rows) joinTable,
        ((test ∘ fun far => near.manyToMany rows far) far && decide (far ≠ near)) =
          (near.keptBy rows keep && (decide (far ≠ near) && far.keptBy rows keep)) := by
      intro far hfar
      rw [Function.comp_apply, hpair far hfar, Bool.and_assoc, Bool.and_comm (far.keptBy _ _)]
    rw [List.filter_map, List.filter_filter, List.filter_congr hfars]
    by_cases hby : near.keptBy rows keep
    · simp only [hby, Bool.true_and, if_true, List.filter_filter]
    · simp [hby]
  rw [hpassed]
  -- If the near key is gone, so are all its pairs; else the far keys decide.
  by_cases hby : near.keptBy rows keep
  · rw [if_pos hby, if_pos hby]
    refine List.map_congr_left fun far hfar => ?_
    have hnearKeep : keep near.owner := (Bool.and_eq_true_iff.1 hby).1
    have hfarInner := (List.mem_filter.1 (List.mem_filter.1 hfar).1).1
    have hfarOwner : far.owner = near.owner := (howner far hfarInner).trans hnearOwner.symm
    exact h.manyToMany_eq hnearKeep (hfarOwner ▸ hnearKeep)
  · rw [if_neg hby, if_neg hby]

/-- **The relations of a kept table** in the smaller list. -/
theorem builtTable_relations_eq (h : Narrows keep rows loaded)
    (htest : SelectsByKeys keep rows ref test) :
    (builtTable loaded ref).relations = (builtTable rows ref).relations.filter test := by
  rw [builtTable_relations, builtTable_relations, relationsFrom, relationsFrom,
    List.filter_append, h.directRelations_eq htest, h.tableRows.tableNames_eq,
    List.filter_flatMap]
  congr 1
  -- A join table that is not kept holds no key of the smaller list.
  have hnone : ∀ table ∈ tableNames rows ref.schema, ¬keep ⟨ref.schema, table⟩ →
      joinedRelations loaded (keptKeys loaded) ref ⟨ref.schema, table⟩ = [] := by
    intro table _ hkeep
    refine joinedRelations_eq_nil_of_owner fun howner => hkeep ?_
    obtain ⟨key, hkey, hkeyOwner⟩ := List.mem_map.1 howner
    rw [h.keptKeys_eq, List.mem_filter] at hkey
    exact hkeyOwner ▸ (Bool.and_eq_true_iff.1 hkey.2).1
  rw [flatMap_filter_of_nil hnone]
  refine List.flatMap_congr fun table _ => ?_
  have hschema : (TableRef.mk ref.schema table).schema = ref.schema := rfl
  exact h.joinedRelations_eq htest hschema

end Narrows

end SchemaDiagram
