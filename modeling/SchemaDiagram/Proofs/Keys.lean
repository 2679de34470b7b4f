import SchemaDiagram.Catalog.Build
import SchemaDiagram.Proofs.Names

/-!
# Tables and keys of a list of rows

Which tables and foreign keys a list of rows describes, and in which order a catalog names
them, said without the lists through which a catalog is built.

* `Registered`: a table is registered if it owns a row;
* `TableRef.Before`, `KeyRef.Before`: schemas in the order of their first mention, tables and
  keys by name;
* `KeyRef.Described`, `KeyRef.target`, `KeyRef.Kept`: a key is described by its own rows,
  targets what the last of them says, and is kept if that table is registered;
* `KeyRef.sources`, `KeyRef.entries`: the rows of its columns and of its index entries;
* `keptKeys`, `skippedKeys`: the two lists of keys that these notions and the order determine;
  `links_eq` and `buildWarnings_eq` say that links and warnings are taken from them.
-/

namespace SchemaDiagram

/-! ### Registered tables -/

/-- **Registered.** The table owns one of the rows. -/
def Registered (rows : List Row) (ref : TableRef) : Prop := ∃ row ∈ rows, row.owner? = some ref

instance (rows : List Row) (ref : TableRef) : Decidable (Registered rows ref) :=
  inferInstanceAs (Decidable (∃ row ∈ rows, row.owner? = some ref))

/-- The place at which the rows first mention a schema. -/
def firstMention (rows : List Row) (schema : String) : Nat :=
  (rows.map Row.schemaName).idxOf schema

/-- **Order of tables:** schemas in the order of first mention, then tables by name. -/
def TableRef.Before (rows : List Row) (a b : TableRef) : Prop :=
  firstMention rows a.schema < firstMention rows b.schema ∨
    a.schema = b.schema ∧ a.table < b.table

/-- The order of tables has no cycle of two. -/
theorem TableRef.Before.asymm {rows : List Row} (a b : TableRef) (h : a.Before rows b) :
    ¬b.Before rows a := by
  -- Mixed cases compare a schema with itself, which is not mentioned before itself.
  rintro (h' | ⟨hs', ht'⟩)
  · rcases h with h | ⟨hs, -⟩
    · exact Nat.lt_asymm h h'
    · exact Nat.lt_irrefl _ (hs ▸ h')
  · rcases h with h | ⟨-, ht⟩
    · exact Nat.lt_irrefl _ (hs' ▸ h)
    · exact string_lt_asymm _ _ ht ht'

/-- The schemas of a list of rows are those that some row mentions. -/
@[simp] theorem mem_schemaNames {rows : List Row} {schema : String} :
    schema ∈ schemaNames rows ↔ ∃ row ∈ rows, row.schemaName = schema := by
  rw [schemaNames, List.mem_eraseDups, List.mem_map]

/-- Schemas stand in the order of their first mention. -/
theorem schemaNames_pairwise (rows : List Row) :
    (schemaNames rows).Pairwise fun a b => firstMention rows a < firstMention rows b :=
  eraseDups_pairwise_idxOf _

/-- No schema is listed twice. -/
theorem schemaNames_nodup (rows : List Row) : (schemaNames rows).Nodup := nodup_eraseDups _

/-- A row is owned by a table if it names the schema and the table. -/
theorem Row.owner?_eq_some {row : Row} {ref : TableRef} :
    row.owner? = some ref ↔ row.schemaName = ref.schema ∧ row.tableName? = some ref.table := by
  cases ref
  cases h : row.tableName? <;> simp [Row.owner?, h, and_comm]

/-- The tables of a schema are those that own a row. -/
@[simp] theorem mem_tableNames {rows : List Row} {schema table : String} :
    table ∈ tableNames rows schema ↔ Registered rows ⟨schema, table⟩ := by
  simp only [tableNames, mem_sortedNames, List.mem_filterMap, List.mem_filter,
    decide_eq_true_eq, Registered, Row.owner?_eq_some, and_assoc]

/-- The tables of a schema stand in the order of their names. -/
theorem tableNames_pairwise (rows : List Row) (schema : String) :
    (tableNames rows schema).Pairwise (· < ·) := sortedNames_pairwise _

/-- No table of a schema is listed twice. -/
theorem tableNames_nodup (rows : List Row) (schema : String) : (tableNames rows schema).Nodup :=
  (tableNames_pairwise rows schema).imp fun h => String.ne_of_lt h

/-- The list of registered tables has those that own a row. -/
@[simp] theorem mem_registered {rows : List Row} {ref : TableRef} :
    ref ∈ registered rows ↔ Registered rows ref := by
  simp only [registered, List.mem_flatMap, List.mem_map, mem_tableNames]
  constructor
  · rintro ⟨schema, -, table, htable, rfl⟩
    exact htable
  · intro h
    obtain ⟨row, hrow, howner⟩ := h
    exact ⟨ref.schema, mem_schemaNames.2 ⟨row, hrow, (Row.owner?_eq_some.1 howner).1⟩,
      ref.table, ⟨row, hrow, howner⟩, rfl⟩

/-- The registered tables stand in the order of tables. -/
theorem registered_pairwise (rows : List Row) :
    (registered rows).Pairwise (TableRef.Before rows) := by
  rw [registered, List.pairwise_flatMap]
  constructor
  -- Within a schema the names increase; of two schemas the one mentioned first goes first.
  · intro schema _
    exact List.pairwise_map.2 ((tableNames_pairwise rows schema).imp fun h => .inr ⟨rfl, h⟩)
  · refine (schemaNames_pairwise rows).imp fun {a b} hab => ?_
    intro ref href ref' href'
    rw [List.mem_map] at href href'
    obtain ⟨t, -, rfl⟩ := href
    obtain ⟨t', -, rfl⟩ := href'
    exact .inl hab

/-! ### Keys -/

/-- **Key reference:** a foreign key by the table that holds it and by its name. -/
structure KeyRef where
  owner : TableRef
  name : String
  deriving DecidableEq

/-- The foreign key that a row describes. -/
def Row.key? (row : Row) : Option KeyRef :=
  row.owner?.bind fun owner => row.keyName?.map (⟨owner, ·⟩)

/-- A row describes a key if it is owned by the table of the key and bears its name. -/
theorem Row.key?_eq_some {row : Row} {key : KeyRef} :
    row.key? = some key ↔ row.owner? = some key.owner ∧ row.keyName? = some key.name := by
  cases key
  cases ho : row.owner? <;> cases hn : row.keyName? <;> simp [Row.key?, ho, hn]

/-- Only foreign-key rows are taken as such, and each as it is. -/
theorem Row.foreignKey?_eq_some {row : Row} {key : ForeignKeyRow} :
    row.foreignKey? = some key ↔ row = .foreignKey key := by
  cases row <;> simp [Row.foreignKey?]

namespace KeyRef

/-- The rows that describe a key. -/
def rowsIn (rows : List Row) (key : KeyRef) : List Row :=
  rows.filter fun row => decide (row.key? = some key)

/-- **Described.** One of the rows describes the key. -/
def Described (rows : List Row) (key : KeyRef) : Prop := ∃ row ∈ rows, row.key? = some key

instance (rows : List Row) (key : KeyRef) : Decidable (key.Described rows) :=
  inferInstanceAs (Decidable (∃ row ∈ rows, row.key? = some key))

/-- **The sources of a key:** the rows of its columns, as they come. -/
def sources (rows : List Row) (key : KeyRef) : List ForeignKeyRow :=
  (key.rowsIn rows).filterMap Row.foreignKey?

/-- **The entries of a key:** the rows of the entries of its index, as they come. -/
def entries (rows : List Row) (key : KeyRef) : List IndexEntryRow :=
  (key.rowsIn rows).filterMap Row.indexEntry?

/-- **The target of a key:** that of the last of its rows that names a target, and the table
without a name in the schema without a name if none does. -/
def target (rows : List Row) (key : KeyRef) : TableRef :=
  match ((key.rowsIn rows).filterMap Row.foreignKey?).getLast? with
  | some row => ⟨row.targetSchema, row.targetTable⟩
  | none => ⟨"", ""⟩

/-- **Kept.** The key is described and leads to a registered table. -/
def Kept (rows : List Row) (key : KeyRef) : Prop :=
  key.Described rows ∧ Registered rows (key.target rows)

instance (rows : List Row) (key : KeyRef) : Decidable (key.Kept rows) :=
  inferInstanceAs (Decidable (key.Described rows ∧ Registered rows (key.target rows)))

/-- The foreign key with its columns and index entries. -/
def foreignKey (rows : List Row) (key : KeyRef) : ForeignKey :=
  foreignKeyOf (key.rowsIn rows) key.name

/-- The link of a key, be its target registered or not. -/
def link (rows : List Row) (key : KeyRef) : Link :=
  { owner := key.owner, target := key.target rows, foreignKey := key.foreignKey rows }

/-- **Order of keys:** by the tables that hold them, then by name. -/
def Before (rows : List Row) (a b : KeyRef) : Prop :=
  a.owner.Before rows b.owner ∨ a.owner = b.owner ∧ a.name < b.name

/-- The order of keys has no cycle of two. -/
theorem Before.asymm {rows : List Row} (a b : KeyRef) (h : a.Before rows b) :
    ¬b.Before rows a := by
  -- Mixed cases compare a table with itself, which does not come before itself.
  rintro (h' | ⟨ho', hn'⟩)
  · rcases h with h | ⟨ho, -⟩
    · exact TableRef.Before.asymm _ _ h h'
    · exact TableRef.Before.asymm _ _ h' (ho ▸ h')
  · rcases h with h | ⟨-, hn⟩
    · exact TableRef.Before.asymm _ _ h (ho' ▸ h)
    · exact string_lt_asymm _ _ hn hn'

/-- The sources of a key are the foreign-key rows that describe it. -/
theorem mem_sources {rows : List Row} {key : KeyRef} {row : ForeignKeyRow} :
    row ∈ key.sources rows ↔
      Row.foreignKey row ∈ rows ∧ (Row.foreignKey row).key? = some key := by
  simp only [sources, rowsIn, List.mem_filterMap, List.mem_filter, decide_eq_true_eq,
    Row.foreignKey?_eq_some]
  constructor
  · rintro ⟨_, h, rfl⟩
    exact h
  · intro h
    exact ⟨_, h, rfl⟩

/-- **The foreign key of a key:** its sources and its entries in the order of their positions. -/
theorem foreignKey_eq (rows : List Row) (key : KeyRef) : key.foreignKey rows =
    { name := key.name
      columns := ((key.sources rows).mergeSort
        fun a b => decide (a.position ≤ b.position)).map (·.column)
      index := ((key.entries rows).mergeSort
        fun a b => decide (a.position ≤ b.position)).map (·.entry) } := rfl

/-- A described key belongs to a registered table. -/
theorem Described.registered {rows : List Row} {key : KeyRef} (h : key.Described rows) :
    Registered rows key.owner := by
  obtain ⟨row, hrow, hkey⟩ := h
  exact ⟨row, hrow, (Row.key?_eq_some.1 hkey).1⟩

end KeyRef

/-- All described keys, in order. -/
def allKeys (rows : List Row) : List KeyRef :=
  (registered rows).flatMap fun ref =>
    (sortedNames ((rowsOf rows ref).filterMap Row.keyName?)).map (⟨ref, ·⟩)

/-- The list of all keys has those that some row describes. -/
@[simp] theorem mem_allKeys {rows : List Row} {key : KeyRef} :
    key ∈ allKeys rows ↔ key.Described rows := by
  simp only [allKeys, List.mem_flatMap, mem_registered, List.mem_map, mem_sortedNames,
    List.mem_filterMap, rowsOf, List.mem_filter, decide_eq_true_eq]
  constructor
  · rintro ⟨ref, -, name, ⟨row, ⟨hrow, howner⟩, hname⟩, rfl⟩
    exact ⟨row, hrow, Row.key?_eq_some.2 ⟨howner, hname⟩⟩
  · intro h
    have howner := h.registered
    obtain ⟨row, hrow, hkey⟩ := h
    obtain ⟨ho, hn⟩ := Row.key?_eq_some.1 hkey
    exact ⟨key.owner, howner, key.name, ⟨row, ⟨hrow, ho⟩, hn⟩, rfl⟩

/-- All keys stand in the order of keys. -/
theorem allKeys_pairwise (rows : List Row) : (allKeys rows).Pairwise (KeyRef.Before rows) := by
  rw [allKeys, List.pairwise_flatMap]
  constructor
  · -- Within a table the names increase; of two tables the keys of the earlier go first.
    intro ref _
    exact List.pairwise_map.2 ((sortedNames_pairwise _).imp fun h => .inr ⟨rfl, h⟩)
  · refine (registered_pairwise rows).imp fun {a b} hab => ?_
    intro key hkey key' hkey'
    rw [List.mem_map] at hkey hkey'
    obtain ⟨n, -, rfl⟩ := hkey
    obtain ⟨n', -, rfl⟩ := hkey'
    exact .inl hab

/-- The rows of a table that name a key are the rows of that key. -/
theorem filter_rowsOf (rows : List Row) (owner : TableRef) (name : String) :
    (rowsOf rows owner).filter (fun row => decide (row.keyName? = some name)) =
      KeyRef.rowsIn rows ⟨owner, name⟩ := by
  rw [rowsOf, KeyRef.rowsIn, List.filter_filter]
  refine List.filter_congr fun row _ => ?_
  rw [← Bool.decide_and, decide_eq_decide, Row.key?_eq_some, and_comm]

/-- There is a link for each described key, in the order of the keys. -/
theorem allLinks_eq (rows : List Row) : allLinks rows = (allKeys rows).map (KeyRef.link rows) := by
  -- Both run over tables and names; a link takes the rows of its key from those of the table.
  simp only [allLinks, allKeys, linksOf, List.map_flatMap, List.map_map]
  refine List.flatMap_congr fun ref _ => List.map_congr_left fun name _ => ?_
  simp only [filter_rowsOf]
  rfl

/-! ### Kept and skipped keys -/

/-- **Kept keys,** in order. -/
def keptKeys (rows : List Row) : List KeyRef :=
  (allKeys rows).filter fun key => decide (Registered rows (key.target rows))

/-- **Skipped keys,** in order. -/
def skippedKeys (rows : List Row) : List KeyRef :=
  (allKeys rows).filter fun key => decide (¬Registered rows (key.target rows))

/-- The kept keys are those that lead to a registered table. -/
@[simp] theorem mem_keptKeys {rows : List Row} {key : KeyRef} :
    key ∈ keptKeys rows ↔ key.Kept rows := by
  rw [keptKeys, List.mem_filter, mem_allKeys, decide_eq_true_iff, KeyRef.Kept]

/-- The skipped keys are described, but lead to no registered table. -/
@[simp] theorem mem_skippedKeys {rows : List Row} {key : KeyRef} :
    key ∈ skippedKeys rows ↔ key.Described rows ∧ ¬Registered rows (key.target rows) := by
  rw [skippedKeys, List.mem_filter, mem_allKeys, decide_eq_true_iff]

/-- The kept keys stand in the order of keys. -/
theorem keptKeys_pairwise (rows : List Row) : (keptKeys rows).Pairwise (KeyRef.Before rows) :=
  (allKeys_pairwise rows).filter _

/-- So do the skipped keys. -/
theorem skippedKeys_pairwise (rows : List Row) :
    (skippedKeys rows).Pairwise (KeyRef.Before rows) :=
  (allKeys_pairwise rows).filter _

/-- No key is kept twice. -/
theorem keptKeys_nodup (rows : List Row) : (keptKeys rows).Nodup := by
  refine (keptKeys_pairwise rows).imp fun {a b} h => ?_
  rintro rfl
  exact KeyRef.Before.asymm a a h h

/-- A link is kept just in case its key leads to a registered table. -/
theorem isKept_link (rows : List Row) (key : KeyRef) :
    (key.link rows).isKept (registered rows) = decide (Registered rows (key.target rows)) := by
  rw [Link.isKept, decide_eq_decide]
  exact mem_registered

/-- **The links are the kept keys.** -/
theorem links_eq (rows : List Row) : links rows = (keptKeys rows).map (KeyRef.link rows) := by
  rw [links, allLinks_eq, List.filter_map, keptKeys]
  congr 1
  exact List.filter_congr fun key _ => isKept_link rows key

/-- **The warnings are the skipped keys.** -/
theorem buildWarnings_eq (rows : List Row) :
    buildWarnings rows = (skippedKeys rows).map fun key =>
      .skippedForeignKey key.name (key.target rows).schema (key.target rows).table := by
  -- A warning is read off a link that is not kept, and that is the link of a skipped key.
  rw [buildWarnings, allLinks_eq, List.filter_map, List.map_map, skippedKeys]
  have hfilter : (allKeys rows).filter ((fun link => !link.isKept (registered rows)) ∘
      KeyRef.link rows) =
      (allKeys rows).filter fun key => decide (¬Registered rows (key.target rows)) := by
    refine List.filter_congr fun key _ => ?_
    rw [Function.comp_apply, isKept_link, decide_not]
  rw [hfilter]
  rfl

end SchemaDiagram
