import Mathlib.Data.List.Induction
import SchemaDiagram.Catalog.Builder
import SchemaDiagram.Proofs.Keys

/-!
# What a builder has collected

After any rows, in whatever order they came, the drafts of a builder say what all the rows say
together. `Collects` states this for the draft of a key, for the draft of a table and for the whole
builder, each with a lemma for what one row changes:

* the draft of a key has the sources and the entries of the key, and its last target;
* the draft of a table has its columns, its primary key and its keys;
* the builder has a draft just for the registered tables, and its schemas in the order of first
  mention, where list and map name the same ones.

`Builder.collects_ofRows` carries this along all rows.
-/

namespace SchemaDiagram

/-! ### One more row -/

section Concat

variable {α : Type} {rows : List Row} {row : Row} {f : Row → Option α}

/-- A row that says nothing of a kind adds nothing to what is said of it. -/
theorem filterMap_concat_of_none (h : f row = none) :
    (rows ++ [row]).filterMap f = rows.filterMap f := by
  rw [List.filterMap_append, List.filterMap_cons_none h, List.filterMap_nil, List.append_nil]

/-- A row that says something of a kind adds it at the end. -/
theorem filterMap_concat_of_some {a : α} (h : f row = some a) :
    (rows ++ [row]).filterMap f = rows.filterMap f ++ [a] := by
  rw [List.filterMap_append, List.filterMap_cons_some h, List.filterMap_nil]

variable [DecidableEq α] {a : α}

/-- The rows of one thing, where the new row is one of them. -/
theorem filter_concat_of_eq (h : f row = some a) :
    (rows ++ [row]).filter (fun row => decide (f row = some a)) =
      rows.filter (fun row => decide (f row = some a)) ++ [row] := by
  simp [List.filter_append, h]

/-- The rows of one thing, where the new row is none of them. -/
theorem filter_concat_of_ne (h : f row ≠ some a) :
    (rows ++ [row]).filter (fun row => decide (f row = some a)) =
      rows.filter (fun row => decide (f row = some a)) := by
  simp [List.filter_append, h]

end Concat

/-! ### Drafts of keys -/

/-- **What the draft of a key has collected:** these are the rows of the key. -/
structure KeyDraft.Collects (draft : KeyDraft) (rows : List Row) : Prop where
  target : draft.target = targetOf rows
  columns : draft.columns =
    (rows.filterMap Row.foreignKey?).map fun row => (row.position, row.column)
  index : draft.index = (rows.filterMap Row.indexEntry?).map fun row => (row.position, row.entry)

namespace KeyDraft.Collects

variable {draft : KeyDraft} {rows : List Row}

/-- The empty draft has collected no rows. -/
theorem empty : KeyDraft.empty.Collects [] := ⟨rfl, rfl, rfl⟩

/-- A row of a source column gives one more column, and the target. -/
theorem source (h : draft.Collects rows) (row : ForeignKeyRow) :
    KeyDraft.Collects
      { draft with
        target := ⟨row.targetSchema, row.targetTable⟩
        columns := draft.columns ++ [(row.position, row.column)] }
      (rows ++ [.foreignKey row]) where
  target := by
    rw [targetOf, filterMap_concat_of_some (f := Row.foreignKey?) rfl, List.getLast?_concat]
  columns := by
    rw [filterMap_concat_of_some (f := Row.foreignKey?) rfl, List.map_append, ← h.columns,
      List.map_singleton]
  index := by
    rw [filterMap_concat_of_none (f := Row.indexEntry?) rfl]
    exact h.index

/-- A row of an index entry gives one more entry. -/
theorem entry (h : draft.Collects rows) (row : IndexEntryRow) :
    KeyDraft.Collects { draft with index := draft.index ++ [(row.position, row.entry)] }
      (rows ++ [.indexEntry row]) where
  target := by
    rw [targetOf, filterMap_concat_of_none (f := Row.foreignKey?) rfl]
    exact h.target
  columns := by
    rw [filterMap_concat_of_none (f := Row.foreignKey?) rfl]
    exact h.columns
  index := by
    rw [filterMap_concat_of_some (f := Row.indexEntry?) rfl, List.map_append, ← h.index,
      List.map_singleton]

end KeyDraft.Collects

/-! ### Drafts of tables -/

/-- The draft of a key, empty if there is none. -/
def TableDraft.key (draft : TableDraft) (name : String) : KeyDraft :=
  (draft.foreignKeys.find? name).getD .empty

/-- **What the draft of a table has collected:** these are the rows of the table. -/
structure TableDraft.Collects (draft : TableDraft) (rows : List Row) : Prop where
  columns : draft.columns = (rows.filterMap Row.column?).map fun row => (row.ordinal, row.draft)
  primaryKey : ∀ column,
    column ∈ draft.primaryKey ↔ column ∈ rows.filterMap Row.primaryKeyColumn?
  names : ∀ name, name ∈ draft.foreignKeys.names ↔ name ∈ rows.filterMap Row.keyName?
  keys : ∀ name,
    (draft.key name).Collects (rows.filter fun row => decide (row.keyName? = some name))

namespace TableDraft.Collects

variable {draft : TableDraft} {rows : List Row} {row : Row}

/-- The draft of a table without rows has collected none. -/
theorem empty : TableDraft.empty.Collects [] :=
  ⟨rfl, fun _ => Iff.rfl, fun _ => Iff.rfl, fun _ => KeyDraft.Collects.empty⟩

/-- A row that describes no key leaves the keys as they are. -/
theorem of_keyName_eq_none (h : draft.Collects rows) (hrow : row.keyName? = none)
    {columns : List (Int32 × Column)} {primaryKey : List String}
    (hcolumns : columns =
      ((rows ++ [row]).filterMap Row.column?).map fun row => (row.ordinal, row.draft))
    (hprimaryKey : ∀ column,
      column ∈ primaryKey ↔ column ∈ (rows ++ [row]).filterMap Row.primaryKeyColumn?) :
    TableDraft.Collects ⟨columns, primaryKey, draft.foreignKeys⟩ (rows ++ [row]) where
  columns := hcolumns
  primaryKey := hprimaryKey
  names name := by
    rw [filterMap_concat_of_none hrow]
    exact h.names name
  keys name := by
    have hother : row.keyName? ≠ some name := by
      rw [hrow]
      exact (Option.some_ne_none name).symm
    rw [filter_concat_of_ne hother]
    exact h.keys name

/-- A change of a key adds the row to that key and leaves the others. -/
theorem changeKey (h : draft.Collects rows) {name : String} (hrow : row.keyName? = some name)
    (hcolumn : row.column? = none) (hprimaryKey : row.primaryKeyColumn? = none)
    {change : KeyDraft → KeyDraft}
    (hchange : ∀ {key rows}, KeyDraft.Collects key rows → (change key).Collects (rows ++ [row])) :
    TableDraft.Collects
      { draft with foreignKeys := draft.foreignKeys.upsert name .empty change }
      (rows ++ [row]) where
  columns := by
    rw [filterMap_concat_of_none hcolumn]
    exact h.columns
  primaryKey column := by
    rw [filterMap_concat_of_none hprimaryKey]
    exact h.primaryKey column
  names other := by
    rw [NameMap.mem_names_upsert, h.names other, filterMap_concat_of_some hrow, List.mem_append,
      List.mem_singleton, or_comm]
  keys other := by
    rw [TableDraft.key, NameMap.find?_upsert]
    split
    · -- The key that is changed has one more row.
      next heq =>
      subst heq
      rw [filter_concat_of_eq hrow]
      exact hchange (h.keys other)
    · -- Any other key has the rows that it had.
      next hne =>
      have hother : row.keyName? ≠ some other := by
        rw [hrow]
        exact fun heq => hne (Option.some.inj heq).symm
      rw [filter_concat_of_ne hother]
      exact h.keys other

end TableDraft.Collects

/-! ### Builders -/

namespace Builder

/-- The drafts of the tables of a schema, which are none if it is not registered. -/
def tables (builder : Builder) (schema : String) : NameMap TableDraft :=
  (builder.schemas.find? schema).getD .empty

/-- **What a builder has collected.** -/
structure Collects (builder : Builder) (rows : List Row) : Prop where
  schemaOrder : builder.schemaOrder = schemaNames rows
  inStep : ∀ schema, schema ∈ builder.schemas.names ↔ schema ∈ builder.schemaOrder
  tableNames : ∀ ref : TableRef,
    ref.table ∈ (builder.tables ref.schema).names ↔ Registered rows ref
  drafts : ∀ ref : TableRef,
    (((builder.tables ref.schema).find? ref.table).getD .empty).Collects (rowsOf rows ref)

variable {builder : Builder} {rows : List Row} {row : Row}

/-- At the beginning nothing is collected: no schema is known, and no table registered. -/
theorem collects_empty : empty.Collects [] where
  schemaOrder := rfl
  inStep _ := Iff.rfl
  tableNames ref := by
    refine iff_of_false (fun h => ?_) ?_
    · cases h
    · rintro ⟨row, hrow, -⟩
      cases hrow
  drafts _ := TableDraft.Collects.empty

/-! ### Schemas -/

/-- The schemas after one more row. -/
theorem schemaNames_concat (rows : List Row) (row : Row) : schemaNames (rows ++ [row]) =
    if row.schemaName ∈ schemaNames rows then schemaNames rows
    else schemaNames rows ++ [row.schemaName] := by
  have hmem : row.schemaName ∈ schemaNames rows ↔ row.schemaName ∈ rows.map Row.schemaName :=
    List.mem_eraseDups
  simp only [hmem]
  rw [schemaNames, schemaNames, List.map_append, List.eraseDups_append, List.map_singleton,
    List.removeAll, List.filter_singleton, List.elem_eq_mem]
  split
  · -- A schema that was mentioned before stays where it stands.
    next hknown =>
    rw [decide_eq_true hknown]
    exact List.append_nil _
  · -- A new schema goes to the end.
    next hnew =>
    rw [decide_eq_false hnew]
    exact congrArg _ (eraseDups_of_nodup (List.pairwise_singleton _ _))

/-- A new schema goes to the end of the list and into the map. -/
theorem addSchema_eq (builder : Builder) (schema : String) : builder.addSchema schema =
    if schema ∈ builder.schemas.names then builder
    else ⟨builder.schemaOrder ++ [schema], builder.schemas.upsert schema .empty id⟩ := by
  rw [addSchema]
  refine if_congr ?_ rfl rfl
  rw [NameMap.mem_names, Option.isSome_iff_exists]

/-- **Order of schemas** after one more row. -/
theorem Collects.schemaOrder_addSchema (h : builder.Collects rows) (row : Row) :
    (builder.addSchema row.schemaName).schemaOrder = schemaNames (rows ++ [row]) := by
  rw [addSchema_eq, schemaNames_concat]
  simp only [h.inStep, h.schemaOrder]
  -- Both sides ask whether the schema is known, one in the list and the other in the map.
  split
  · exact h.schemaOrder
  · rfl

/-- The list and the map of schemas stay in step. -/
theorem Collects.inStep_addSchema (h : builder.Collects rows) (schema other : String) :
    other ∈ (builder.addSchema schema).schemas.names ↔
      other ∈ (builder.addSchema schema).schemaOrder := by
  rw [addSchema_eq]
  split
  · exact h.inStep other
  · rw [NameMap.mem_names_upsert, h.inStep other, List.mem_append, List.mem_singleton, or_comm]

/-- Registering a schema drafts no table. -/
theorem tables_addSchema (builder : Builder) (schema other : String) :
    (builder.addSchema schema).tables other = builder.tables other := by
  rw [addSchema]
  split
  · -- The schema is there already, and the builder is what it was.
    rfl
  · -- A new schema starts with an empty map, which is what was found for it before.
    next hnew =>
    rw [tables, NameMap.find?_upsert]
    split
    · next heq =>
      rw [heq, tables, Option.not_isSome_iff_eq_none.1 hnew]
      rfl
    · rfl

/-- A row that belongs to no table registers its schema and nothing else. -/
theorem Collects.addSchema (h : builder.Collects rows) (hrow : row.owner? = none) :
    (builder.addSchema row.schemaName).Collects (rows ++ [row]) where
  schemaOrder := h.schemaOrder_addSchema row
  inStep := h.inStep_addSchema row.schemaName
  tableNames ref := by
    rw [tables_addSchema, h.tableNames]
    simp [Registered, or_and_right, exists_or, hrow]
  drafts ref := by
    have hother : row.owner? ≠ some ref := by
      rw [hrow]
      exact (Option.some_ne_none ref).symm
    rw [tables_addSchema, rowsOf, filter_concat_of_ne hother]
    exact h.drafts ref

/-! ### Tables -/

/-- A change of a table shows in the drafts of its schema. -/
theorem tables_changeTable (builder : Builder) (ref : TableRef)
    (change : TableDraft → TableDraft) (schema : String) :
    (builder.changeTable ref change).tables schema =
      if schema = ref.schema then (builder.tables schema).upsert ref.table .empty change
      else builder.tables schema := by
  rw [tables, changeTable, NameMap.find?_upsert]
  split
  · -- The schema of the table itself.
    next heq =>
    subst heq
    exact congrArg (fun known : NameMap TableDraft => known.upsert ref.table .empty change)
      (tables_addSchema builder ref.schema ref.schema)
  · -- Another schema, where nothing is changed.
    exact tables_addSchema builder ref.schema schema

/-- **A change of a table** changes its draft, which starts empty, and no other. -/
theorem find?_changeTable (builder : Builder) (ref : TableRef)
    (change : TableDraft → TableDraft) (other : TableRef) :
    ((builder.changeTable ref change).tables other.schema).find? other.table =
      if other = ref then
        some (change (((builder.tables ref.schema).find? ref.table).getD .empty))
      else (builder.tables other.schema).find? other.table := by
  obtain ⟨schema, table⟩ := ref
  obtain ⟨otherSchema, otherTable⟩ := other
  rw [tables_changeTable]
  dsimp only
  by_cases hschema : otherSchema = schema
  · -- In one schema, the tables are told apart by their names.
    subst hschema
    rw [if_pos rfl, NameMap.find?_upsert]
    simp only [TableRef.mk.injEq, true_and]
  · rw [if_neg hschema, if_neg (fun heq => hschema (congrArg TableRef.schema heq))]

/-- **A row of a table** registers the table with its schema and adds to its draft. -/
theorem Collects.changeTable (h : builder.Collects rows) {ref : TableRef}
    (hrow : row.owner? = some ref) {change : TableDraft → TableDraft}
    (hchange : ∀ {draft rows}, TableDraft.Collects draft rows →
      (change draft).Collects (rows ++ [row])) :
    (builder.changeTable ref change).Collects (rows ++ [row]) := by
  have hschema : row.schemaName = ref.schema := (Row.owner?_eq_some.1 hrow).1
  refine ⟨?_, fun schema => ?_, fun other => ?_, fun other => ?_⟩
  · -- The list of schemas is not touched by the change.
    rw [← h.schemaOrder_addSchema row, hschema]
    rfl
  · -- The schema is registered by now, so the change adds no name.
    have hinStep := h.inStep_addSchema ref.schema
    rw [Builder.changeTable, NameMap.mem_names_upsert, hinStep]
    refine or_iff_right_of_imp fun heq => ?_
    rw [heq, ← hschema, h.schemaOrder_addSchema row, mem_schemaNames]
    exact ⟨row, List.mem_append_right _ List.mem_cons_self, rfl⟩
  · have hregistered := h.tableNames other
    rw [NameMap.mem_names] at hregistered
    rw [NameMap.mem_names, find?_changeTable]
    split
    · next heq =>
      -- The row itself registers its table.
      subst heq
      exact iff_of_true ⟨_, rfl⟩ ⟨row, List.mem_append_right _ List.mem_cons_self, hrow⟩
    · next hne =>
      rw [hregistered]
      simp only [Registered, List.mem_append, List.mem_singleton, or_and_right, exists_or,
        exists_eq_left, hrow, Option.some.injEq, Ne.symm hne, or_false]
  · rw [find?_changeTable]
    split
    · -- The table of the row has one more row.
      next heq =>
      subst heq
      rw [rowsOf, filter_concat_of_eq hrow]
      exact hchange (h.drafts other)
    · -- Any other table has the rows that it had.
      next hne =>
      have hother : row.owner? ≠ some other := by
        rw [hrow]
        exact fun heq => hne (Option.some.inj heq).symm
      rw [rowsOf, filter_concat_of_ne hother]
      exact h.drafts other

/-! ### Rows -/

/-- **One more row,** with a case for each kind of row. -/
theorem Collects.add (h : builder.Collects rows) (row : Row) :
    (builder.add row).Collects (rows ++ [row]) := by
  cases row with
  | schema schema =>
    have hrow : (Row.schema schema).owner? = none := rfl
    exact h.addSchema hrow
  -- A row of a table alone brings only the name.
  | table schema table =>
    refine h.changeTable rfl fun {draft rows} hdraft => ?_
    refine hdraft.of_keyName_eq_none rfl ?_ fun column => ?_
    · rw [filterMap_concat_of_none (f := Row.column?) rfl]
      exact hdraft.columns
    · rw [filterMap_concat_of_none (f := Row.primaryKeyColumn?) rfl]
      exact hdraft.primaryKey column
  -- A column row brings one more column, at the end.
  | column row =>
    refine h.changeTable rfl fun {draft rows} hdraft => ?_
    refine hdraft.of_keyName_eq_none rfl ?_ fun column => ?_
    · rw [filterMap_concat_of_some (f := Row.column?) rfl, List.map_append, hdraft.columns,
        List.map_singleton]
    · rw [filterMap_concat_of_none (f := Row.primaryKeyColumn?) rfl]
      exact hdraft.primaryKey column
  -- The columns of a primary key are a set, where only membership counts.
  | primaryKey schema table column =>
    refine h.changeTable rfl fun {draft rows} hdraft => ?_
    refine hdraft.of_keyName_eq_none rfl ?_ fun other => ?_
    · rw [filterMap_concat_of_none (f := Row.column?) rfl]
      exact hdraft.columns
    · rw [filterMap_concat_of_some (f := Row.primaryKeyColumn?) rfl, List.mem_insert_iff,
        hdraft.primaryKey other, List.mem_append, List.mem_singleton, or_comm]
  | foreignKey row =>
    refine h.changeTable rfl fun {draft rows} hdraft => ?_
    exact hdraft.changeKey rfl rfl rfl fun hkey => hkey.source row
  | indexEntry row =>
    refine h.changeTable rfl fun {draft rows} hdraft => ?_
    exact hdraft.changeKey rfl rfl rfl fun hkey => hkey.entry row

/-- **After any rows,** the drafts are those of all of them. -/
theorem collects_ofRows (rows : List Row) : (ofRows rows).Collects rows := by
  -- From the end, since each row is added to what the rows before it have left.
  induction rows using List.reverseRecOn with
  | nil => exact collects_empty
  | append_singleton rows row ih =>
    rw [ofRows, List.foldl_append]
    exact ih.add row

end Builder

end SchemaDiagram
