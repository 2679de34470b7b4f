import SchemaDiagram.Proofs.Keys

/-!
# Exact derivation of relations

What the relations of a built table are, in terms of the keys that the rows describe: key by
key the relations that a key gives at the two tables it joins, then join table by join table
one relation for each ordered pair of its inner keys, which are those that lead into its own
schema.

* `KeyRef.manyToOne`, `KeyRef.oneToMany`, `KeyRef.manyToMany`: the three relations of keys;
* `directRelations`, `joinedRelations`: the two parts of the relations of a table;
* `buildTable_relations`: a built table has these relations and no others.

The derivation of the catalog runs over a list of links and finds its join tables in it. The
proof replaces links by keys (`links_eq`) and the tables found by all tables of the schema: a
table without inner keys contributes no pair, so both lists give the same concatenation.
-/

namespace SchemaDiagram

/-! ### Ordered pairs -/

/-- Pairs of entries at different places are taken to pairs of their images. -/
theorem orderedPairs_map {α β : Type} (f : α → β) (items : List α) :
    orderedPairs (items.map f) = (orderedPairs items).map (Prod.map f f) := by
  simp only [orderedPairs, List.zipIdx_map, List.flatMap_map, List.map_flatMap,
    List.filterMap_map, List.map_filterMap]
  refine List.flatMap_congr fun a _ => List.filterMap_congr fun b _ => ?_
  -- Two images are paired just in case their places differ, which the map does not change.
  simp only [Prod.map, Function.comp_apply, id_eq]
  split <;> rfl

/-- Where no entry occurs twice, different places hold different entries. -/
theorem orderedPairs_of_nodup {α : Type} [DecidableEq α] {items : List α} (h : items.Nodup) :
    orderedPairs items =
      items.flatMap fun a => (items.filter fun b => decide (b ≠ a)).map (a, ·) := by
  -- Places and entries determine each other: this is where no entry may occur twice.
  have hplace : ∀ p ∈ items.zipIdx, ∀ q ∈ items.zipIdx, p.2 = q.2 ↔ p.1 = q.1 := by
    rintro ⟨a, i⟩ hp ⟨b, j⟩ hq
    rw [List.mem_zipIdx_iff_getElem?] at hp hq
    have hi := (List.getElem?_eq_some_iff.1 hp).1
    constructor
    · intro hij
      exact Option.some.inj (hp.symm.trans ((congrArg _ hij).trans hq))
    · intro hab
      exact (List.getElem?_inj hi h).1 (hp.trans ((congrArg some hab).trans hq.symm))
  have hinner : ∀ p ∈ items.zipIdx,
      (items.zipIdx.filterMap fun q => if p.2 = q.2 then none else some (p.1, q.1)) =
        (items.filter fun b => decide (b ≠ p.1)).map (p.1, ·) := by
    intro p hp
    calc (items.zipIdx.filterMap fun q => if p.2 = q.2 then none else some (p.1, q.1))
        = items.zipIdx.filterMap
            ((fun b => if b = p.1 then none else some (p.1, b)) ∘ Prod.fst) := by
          refine List.filterMap_congr fun q hq => ?_
          simp only [hplace p hp q hq, Function.comp_apply, eq_comm]
      _ = items.filterMap fun b => if b = p.1 then none else some (p.1, b) := by
          rw [← List.filterMap_map, List.zipIdx_map_fst]
      _ = (items.filter fun b => decide (b ≠ p.1)).map (p.1, ·) := by
          rw [← List.filterMap_eq_map, List.filterMap_filter]
          refine List.filterMap_congr fun b _ => ?_
          by_cases hb : b = p.1 <;> simp [hb]
  calc orderedPairs items
      = items.zipIdx.flatMap fun p => (items.filter fun b => decide (b ≠ p.1)).map (p.1, ·) :=
        List.flatMap_congr hinner
    _ = (items.zipIdx.map Prod.fst).flatMap fun a =>
          (items.filter fun b => decide (b ≠ a)).map (a, ·) := by
        rw [List.flatMap_map]
    _ = items.flatMap fun a => (items.filter fun b => decide (b ≠ a)).map (a, ·) := by
        rw [List.zipIdx_map_fst]

/-! ### The relations of keys -/

namespace KeyRef

/-- **Many-to-one.** The relation of a key at the table that holds it. -/
def manyToOne (rows : List Row) (key : KeyRef) : Relation :=
  { kind := .manyToOne
    sourceTable := key.owner.table
    targetSchema :=
      if key.owner.schema = (key.target rows).schema then none else some (key.target rows).schema
    targetTable := (key.target rows).table
    foreignKey := key.foreignKey rows
    join := none }

/-- **One-to-many.** The relation of a key at the table that it targets. -/
def oneToMany (rows : List Row) (key : KeyRef) : Relation :=
  { kind := .oneToMany
    sourceTable := (key.target rows).table
    targetSchema :=
      if (key.target rows).schema = key.owner.schema then none else some key.owner.schema
    targetTable := key.owner.table
    foreignKey := key.foreignKey rows
    join := none }

/-- **Many-to-many.** The relation of two keys of a join table, from the target of the near one
to the target of the far one. -/
def manyToMany (rows : List Row) (near far : KeyRef) : Relation :=
  { kind := .manyToMany
    sourceTable := (near.target rows).table
    targetSchema := none
    targetTable := (far.target rows).table
    foreignKey := near.foreignKey rows
    join := some { table := near.owner.table, targetForeignKey := far.foreignKey rows } }

end KeyRef

/-- **Inner keys** of a join table: its keys that lead into its own schema. -/
def innerKeys (rows : List Row) (keys : List KeyRef) (joinTable : TableRef) : List KeyRef :=
  keys.filter fun key =>
    decide (key.owner = joinTable ∧ (key.target rows).schema = joinTable.schema)

/-- The relations that keys give a table directly: key by key the many-to-one relation if the
table holds the key, then the one-to-many relation if the key targets the table. -/
def directRelations (rows : List Row) (keys : List KeyRef) (ref : TableRef) : List Relation :=
  keys.flatMap fun key =>
    (if key.owner = ref then [key.manyToOne rows] else []) ++
      (if key.target rows = ref then [key.oneToMany rows] else [])

/-- The relations that the keys of a join table give a table: one for each ordered pair of
different inner keys of which the first one targets the table. -/
def joinedRelations (rows : List Row) (keys : List KeyRef) (ref joinTable : TableRef) :
    List Relation :=
  let inner := innerKeys rows keys joinTable
  (inner.filter fun near => decide (near.target rows = ref)).flatMap fun near =>
    (inner.filter fun far => decide (far ≠ near)).map fun far => near.manyToMany rows far

/-- **The relations of a table,** in terms of some keys and of the tables of its schema. -/
def relationsFrom (rows : List Row) (keys : List KeyRef) (tables : List String)
    (ref : TableRef) : List Relation :=
  directRelations rows keys ref ++
    tables.flatMap fun table => joinedRelations rows keys ref ⟨ref.schema, table⟩

/-! ### The derivation -/

/-- The inner keys stand in the order of all keys. -/
theorem innerKeys_sublist (rows : List Row) (keys : List KeyRef) (joinTable : TableRef) :
    (innerKeys rows keys joinTable).Sublist keys := List.filter_sublist

/-- The inner keys of a join table are the kept keys that it holds and that stay in its schema. -/
theorem mem_innerKeys {rows : List Row} {joinTable : TableRef} {key : KeyRef} :
    key ∈ innerKeys rows (keptKeys rows) joinTable ↔
      key.Kept rows ∧ key.owner = joinTable ∧ (key.target rows).schema = joinTable.schema := by
  rw [innerKeys, List.mem_filter, mem_keptKeys, decide_eq_true_iff]

/-- The direct relations of links, collected at a table. -/
theorem direct_at (rows : List Row) (keys : List KeyRef) (ref : TableRef) :
    (((keys.map (KeyRef.link rows)).flatMap Link.direct).filter
      fun d => decide (d.source = ref)).map (·.relation) = directRelations rows keys ref := by
  -- Key by key: of the two relations of a link, those are collected whose source is the table.
  rw [List.flatMap_map, List.filter_flatMap, List.map_flatMap, directRelations]
  refine List.flatMap_congr fun key _ => ?_
  simp only [Link.direct, KeyRef.link, List.filter_cons, List.filter_nil, decide_eq_true_eq]
  by_cases ho : key.owner = ref <;> by_cases ht : key.target rows = ref <;>
    simp only [ho, ht, if_true, if_false, List.map_cons, List.map_nil, List.nil_append,
      List.cons_append, List.append_nil, KeyRef.manyToOne, KeyRef.oneToMany, Link.manyToOne,
      Link.oneToMany, qualifier]

/-- The relations through one join table, collected at a table. -/
theorem joined_at (rows : List Row) {keys : List KeyRef} (hkeys : keys.Nodup)
    (ref joinTable : TableRef) :
    ((joinRelations (keys.map (KeyRef.link rows)) joinTable).filter
      fun d => decide (d.source = ref)).map (·.relation) =
        joinedRelations rows keys ref joinTable := by
  have houtgoing : ((keys.map (KeyRef.link rows)).filter fun link =>
      decide (link.owner = joinTable ∧ link.target.schema = joinTable.schema)) =
        (innerKeys rows keys joinTable).map (KeyRef.link rows) := List.filter_map
  -- No key is listed twice, so pairs at different places are pairs of different keys.
  have hnodup := (innerKeys_sublist rows keys joinTable).nodup hkeys
  rw [joinRelations, houtgoing, orderedPairs_map, orderedPairs_of_nodup hnodup, joinedRelations,
    List.map_map, List.map_flatMap, List.filter_flatMap, List.map_flatMap, flatMap_filter_eq]
  refine List.flatMap_congr fun near _ => ?_
  rw [List.map_map, List.filter_map, List.map_map]
  -- Whether a pair is collected depends on its first key alone.
  change (((innerKeys rows keys joinTable).filter fun far => decide (far ≠ near)).filter
    fun _ => decide (near.target rows = ref)).map (fun far => near.manyToMany rows far) = _
  by_cases ht : near.target rows = ref
  · rw [if_pos (decide_eq_true ht), List.filter_eq_self.2 fun _ _ => decide_eq_true ht]
  · rw [if_neg (by rwa [decide_eq_true_iff]),
      List.filter_eq_nil_iff.2 fun _ _ h => ht (of_decide_eq_true h), List.map_nil]

/-- The tables that hold keys, without repetitions, stand in the order of tables. -/
theorem owners_pairwise (rows : List Row) {keys : List KeyRef}
    (hkeys : keys.Pairwise (KeyRef.Before rows)) :
    (keys.map KeyRef.owner).eraseDups.Pairwise (TableRef.Before rows) := by
  refine eraseDups_pairwise (List.pairwise_map.2 (hkeys.imp fun {a b} hab => ?_))
  exact hab.imp_right And.left

/-- A table that holds no key joins nothing. -/
theorem joinedRelations_eq_nil_of_owner {rows : List Row} {keys : List KeyRef}
    {ref joinTable : TableRef} (h : joinTable ∉ keys.map KeyRef.owner) :
    joinedRelations rows keys ref joinTable = [] := by
  have hinner : innerKeys rows keys joinTable = [] := by
    refine List.filter_eq_nil_iff.2 fun key hkey hdec => h ?_
    rw [List.mem_map]
    exact ⟨key, hkey, (of_decide_eq_true hdec).1⟩
  rw [joinedRelations, hinner]
  rfl

/-- A table of another schema joins nothing here. -/
theorem joinedRelations_eq_nil_of_schema {rows : List Row} {keys : List KeyRef}
    {ref joinTable : TableRef} (h : joinTable.schema ≠ ref.schema) :
    joinedRelations rows keys ref joinTable = [] := by
  have hnear : (innerKeys rows keys joinTable).filter
      (fun near => decide (near.target rows = ref)) = [] := by
    refine List.filter_eq_nil_iff.2 fun key hkey hdec => h ?_
    have hschema := (of_decide_eq_true (List.mem_filter.1 hkey).2).2
    rw [← hschema, of_decide_eq_true hdec]
  rw [joinedRelations, hnear]
  rfl

/-- **Join tables.** Of the tables that hold keys only those of the schema join something, and
all tables of the schema may be asked, since those without keys join nothing. -/
theorem joinTables_eq (rows : List Row) {keys : List KeyRef}
    (hkeys : keys.Pairwise (KeyRef.Before rows)) (hkept : ∀ key ∈ keys, key.Described rows)
    (ref : TableRef) :
    (keys.map KeyRef.owner).eraseDups.flatMap (joinedRelations rows keys ref) =
      (tableNames rows ref.schema).flatMap fun table =>
        joinedRelations rows keys ref ⟨ref.schema, table⟩ := by
  -- Both lists of tables, cut down to the owners in this schema, are in the order of tables.
  have hlists : (keys.map KeyRef.owner).eraseDups.filter
        (fun o => decide (o.schema = ref.schema)) =
      ((tableNames rows ref.schema).map (TableRef.mk ref.schema)).filter
        fun o => decide (o ∈ keys.map KeyRef.owner) := by
    -- So it is enough that they have the same members.
    refine eq_of_pairwise_of_mem_iff TableRef.Before.asymm
      ((owners_pairwise rows hkeys).filter _) (List.Pairwise.filter _ ?_) fun o => ?_
    · exact List.pairwise_map.2 ((tableNames_pairwise rows _).imp fun h => .inr ⟨rfl, h⟩)
    · rw [List.mem_filter, List.mem_filter, List.mem_eraseDups, decide_eq_true_iff,
        decide_eq_true_iff, List.mem_map (f := TableRef.mk ref.schema)]
      -- An owner in this schema is registered there, so it is among its tables.
      constructor
      · rintro ⟨howner, hschema⟩
        obtain ⟨key, hkey, rfl⟩ := List.mem_map.1 howner
        refine ⟨⟨key.owner.table, mem_tableNames.2 ?_, ?_⟩, howner⟩
        · rw [← hschema]
          exact (hkept key hkey).registered
        · rw [← hschema]
      · rintro ⟨⟨table, -, rfl⟩, howner⟩
        exact ⟨howner, rfl⟩
  calc (keys.map KeyRef.owner).eraseDups.flatMap (joinedRelations rows keys ref)
      = ((keys.map KeyRef.owner).eraseDups.filter
          fun o => decide (o.schema = ref.schema)).flatMap (joinedRelations rows keys ref) :=
        (flatMap_filter_of_nil fun o _ ho =>
          joinedRelations_eq_nil_of_schema (by rwa [decide_eq_true_iff] at ho)).symm
    _ = ((tableNames rows ref.schema).map (TableRef.mk ref.schema)).flatMap
          (joinedRelations rows keys ref) := by
        rw [hlists]
        exact flatMap_filter_of_nil fun o _ ho =>
          joinedRelations_eq_nil_of_owner (by rwa [decide_eq_true_iff] at ho)
    _ = _ := List.flatMap_map _ _ _

/-- **The relations of a built table.** -/
theorem buildTable_relations (rows : List Row) (ref : TableRef) :
    (buildTable rows (deriveRelations (links rows)) ref).relations =
      relationsFrom rows (keptKeys rows) (tableNames rows ref.schema) ref := by
  have howners : (links rows).map Link.owner = (keptKeys rows).map KeyRef.owner := by
    rw [links_eq, List.map_map]
    rfl
  -- The second part of the relations; `links_eq` and `direct_at` give the first one.
  have hjoins : (((links rows).map Link.owner).eraseDups.flatMap (joinRelations (links rows))
      |>.filter fun d => decide (d.source = ref)).map (·.relation) =
      (tableNames rows ref.schema).flatMap fun table =>
        joinedRelations rows (keptKeys rows) ref ⟨ref.schema, table⟩ := by
    rw [howners, List.filter_flatMap, List.map_flatMap, ← joinTables_eq rows
      (keptKeys_pairwise rows) (fun key hkey => (mem_keptKeys.1 hkey).1) ref]
    refine List.flatMap_congr fun o _ => ?_
    rw [links_eq]
    exact joined_at rows (keptKeys_nodup rows) ref o
  rw [relationsFrom, ← hjoins, ← direct_at, ← links_eq, ← List.map_append, ← List.filter_append]
  rfl

end SchemaDiagram
