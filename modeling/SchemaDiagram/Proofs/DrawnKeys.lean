import SchemaDiagram.Proofs.Drawing
import SchemaDiagram.Proofs.RowOrder

/-!
# Drawn keys

Every kept key is drawn once: in the document of the schema of the table that holds it, at that
table, with one line for each of its columns. A key takes part in relations of several tables,
but only its many-to-one relation is drawn, and that one stands at the table of the key
(`builtTable_manyToOne`).

* `keysAt`: the kept keys of a table; those of all tables of all schemas are all kept keys
  (`keptKeys_eq_flatMap`);
* `KeyRef.DrawnAs`: what the lines of a key are, in terms of its rows;
* `KeyRef.Undrawable`: the keys onto an index without a plain column, for which a document is
  refused; the first of them is reported (`KeyRef.FirstUndrawable`).
-/

namespace SchemaDiagram

variable {rows : List Row}

/-! ### The keys of a table -/

/-- **The kept keys of a table,** in order. -/
def keysAt (rows : List Row) (ref : TableRef) : List KeyRef :=
  (keptKeys rows).filter fun key => decide (key.owner = ref)

@[simp] theorem mem_keysAt {ref : TableRef} {key : KeyRef} :
    key ∈ keysAt rows ref ↔ key.Kept rows ∧ key.owner = ref := by
  rw [keysAt, List.mem_filter, mem_keptKeys, decide_eq_true_iff]

/-- The keys of a table stand in the order of their names. -/
theorem keysAt_pairwise (rows : List Row) (ref : TableRef) :
    (keysAt rows ref).Pairwise fun a b => a.name < b.name := by
  have hkeys : (keysAt rows ref).Pairwise (KeyRef.Before rows) := (keptKeys_pairwise rows).filter _
  -- Among keys of one table the order of keys is that of names.
  refine List.Pairwise.imp_of_mem (fun {a b} ha hb hab => ?_) hkeys
  have ha := (mem_keysAt.1 ha).2
  have hb := (mem_keysAt.1 hb).2
  rcases hab with hab | ⟨-, hab⟩
  · rw [ha, hb] at hab
    exact absurd hab (TableRef.Before.asymm _ _ hab)
  · exact hab

/-- **Each kept key is a key of one table.** -/
theorem keptKeys_eq_flatMap (rows : List Row) :
    keptKeys rows = (registered rows).flatMap (keysAt rows) := by
  -- Both lists stand in the order of keys, so it is enough to compare their members.
  refine eq_of_pairwise_of_mem_iff KeyRef.Before.asymm (keptKeys_pairwise rows) ?_ fun key => ?_
  · rw [List.pairwise_flatMap]
    refine ⟨fun ref _ => (keptKeys_pairwise rows).filter _, ?_⟩
    refine (registered_pairwise rows).imp fun {a b} hab key hkey other hother => ?_
    obtain ⟨-, rfl⟩ := mem_keysAt.1 hkey
    obtain ⟨-, rfl⟩ := mem_keysAt.1 hother
    exact .inl hab
  · -- Each key is a key of its owner.
    simp only [mem_keptKeys, List.mem_flatMap, mem_registered, mem_keysAt]
    constructor
    · intro hkey
      exact ⟨key.owner, hkey.1.registered, hkey, rfl⟩
    · rintro ⟨-, -, hkey, -⟩
      exact hkey

/-- The kept keys of the tables of a schema, table by table. -/
def Schema.keptKeys (rows : List Row) (schema : Schema) : List KeyRef :=
  schema.tableNames.flatMap fun table => keysAt rows ⟨schema.name, table⟩

/-- **Each kept key is a key of one schema of the built catalog.** -/
theorem build_keptKeys (rows : List Row) :
    (Catalog.build rows).schemas.flatMap (Schema.keptKeys rows) = keptKeys rows := by
  rw [keptKeys_eq_flatMap, registered, List.flatMap_assoc, build_schemas, List.flatMap_map]
  refine List.flatMap_congr fun name _ => ?_
  rw [Schema.keptKeys, builtSchema_tableNames, builtSchema_name, List.flatMap_map]

/-- **The many-to-one relations of a table** are those of its keys. -/
theorem builtTable_manyToOne (rows : List Row) (ref : TableRef) :
    (builtTable rows ref).manyToOne = (keysAt rows ref).map (KeyRef.manyToOne rows) := by
  -- Joined relations are of another kind; of the direct ones a key gives its own table one.
  have hjoined : ((tableNames rows ref.schema).flatMap fun table =>
      joinedRelations rows (keptKeys rows) ref ⟨ref.schema, table⟩).filter
        (fun relation => decide (relation.kind = .manyToOne)) = [] := by
    refine List.filter_eq_nil_iff.2 fun relation hrelation hkind => ?_
    obtain ⟨table, -, hrelation⟩ := List.mem_flatMap.1 hrelation
    obtain ⟨near, -, hrelation⟩ := List.mem_flatMap.1 hrelation
    obtain ⟨far, -, rfl⟩ := List.mem_map.1 hrelation
    exact absurd (of_decide_eq_true hkind) nofun
  rw [Table.manyToOne, builtTable_relations, relationsFrom, List.filter_append, hjoined,
    List.append_nil, directRelations, List.filter_flatMap, keysAt, List.map_eq_flatMap,
    flatMap_filter_eq]
  refine List.flatMap_congr fun key _ => ?_
  by_cases howner : key.owner = ref <;> by_cases htarget : key.target rows = ref <;>
    simp [howner, htarget, KeyRef.manyToOne, KeyRef.oneToMany]

/-! ### The lines of a key -/

namespace KeyRef

variable {key : KeyRef}

/-- **The join column of a key:** of the entries of its index that are plain columns, the one of
the lowest position. -/
def JoinsAt (rows : List Row) (key : KeyRef) (column : String) : Prop :=
  ∃ row ∈ key.entries rows, row.entry = .column column ∧
    ∀ other ∈ key.entries rows, other.entry.column?.isSome → row.position ≤ other.position

/-- **The lines of a key:** one for each of its columns, in the order of their positions, from
the column of the table that holds the key to the join column of the table that it targets. -/
def DrawnAs (rows : List Row) (key : KeyRef) (lines : List String) : Prop :=
  ∃ (sources : List ForeignKeyRow) (column : String), sources.Perm (key.sources rows) ∧
    (sources.Pairwise fun a b => a.position < b.position) ∧ key.JoinsAt rows column ∧
    lines = sources.map fun row =>
      key.owner.table ++ "." ++ row.column ++ " > " ++ (key.target rows).table ++ "." ++ column

/-- **Undrawable.** A kept key of a table of the schema has no plain column in its index. -/
def Undrawable (rows : List Row) (schema : String) (key : KeyRef) : Prop :=
  key.Kept rows ∧ key.owner.schema = schema ∧ ∀ row ∈ key.entries rows, row.entry.column? = none

/-- **First undrawable.** All other undrawable keys of the schema have a greater table name or,
at the same table, a greater name. -/
def FirstUndrawable (rows : List Row) (schema : String) (key : KeyRef) : Prop :=
  key.Undrawable rows schema ∧ ∀ other : KeyRef, other.Undrawable rows schema →
    other = key ∨ key.owner.table < other.owner.table ∨
      key.owner.table = other.owner.table ∧ key.name < other.name

/-- The join column of a key is the one that is asked for among the rows of its index. -/
theorem joinsAt_of_joinColumn? {column : String}
    (h : (key.foreignKey rows).joinColumn? = some column) : key.JoinsAt rows column := by
  have hle := sorted_pairwise_le IndexEntryRow.position (key.entries rows)
  have hperm := List.mergeSort_perm (key.entries rows) fun a b => decide (a.position ≤ b.position)
  rw [ForeignKey.joinColumn?, foreignKey_eq, List.findSome?_map] at h
  -- The entries in the order of their positions, split at the first plain column.
  obtain ⟨before, row, after, hsplit, hrow, hbefore⟩ := List.findSome?_eq_some_iff.1 h
  rw [hsplit] at hle hperm
  have hentry : row.entry = .column column := by
    cases hentry : row.entry with
    | column name =>
      rw [Function.comp_apply, hentry] at hrow
      exact congrArg IndexEntry.column (Option.some.inj hrow)
    | expression text =>
      rw [Function.comp_apply, hentry] at hrow
      cases hrow
  refine ⟨row, hperm.mem_iff.1 (by simp), hentry, fun other hother hplain => ?_⟩
  -- Where does another plain column stand, before this entry or after it?
  rcases List.mem_append.1 (hperm.mem_iff.2 hother) with hother | hother
  · have hnone : other.entry.column? = none := hbefore other hother
    rw [hnone] at hplain
    cases hplain
  · -- Only entries from this one on can be plain columns, and their positions are not lower.
    rcases List.mem_cons.1 hother with rfl | hother
    · exact Int32.le_refl _
    · have hfrom := (List.pairwise_append.1 hle).2.1
      exact (List.pairwise_cons.1 hfrom).1 other hother

/-- A key is drawable just in case a plain column is among the entries of its index. -/
theorem not_drawable_iff :
    ¬(key.manyToOne rows).Drawable ↔ ∀ row ∈ key.entries rows, row.entry.column? = none := by
  have hindex : (key.manyToOne rows).foreignKey.index =
      ((key.entries rows).mergeSort fun a b => decide (a.position ≤ b.position)).map (·.entry) :=
    congrArg ForeignKey.index (foreignKey_eq rows key)
  rw [Relation.not_drawable_iff, hindex, List.forall_mem_map]
  simp only [List.mem_mergeSort]

/-- **The lines of a drawable key.** -/
theorem drawnAs_of_drawable (hrows : KeyPositionsDistinct rows)
    (h : (key.manyToOne rows).Drawable) : key.DrawnAs rows (key.manyToOne rows).drawnLines := by
  obtain ⟨column, hcolumn⟩ := h
  -- The columns are sorted by position, which decides their order as the positions differ.
  have hlines := Relation.lines_of_joinColumn? hcolumn
  refine ⟨(key.sources rows).mergeSort fun a b => decide (a.position ≤ b.position), column,
    List.mergeSort_perm _ _, sorted_pairwise_lt ForeignKeyRow.position (hrows.sources key),
    joinsAt_of_joinColumn? hcolumn, ?_⟩
  rw [Relation.drawnLines, hlines, manyToOne, foreignKey_eq]
  simp only [List.map_map]
  refine List.map_congr_left fun row _ => ?_
  -- The line puts the blanks around the symbol one by one.
  have hsymbol : " > " = " " ++ (">" ++ " ") := by decide
  simp only [Function.comp_apply, Relation.line, RelationKind.symbol, hsymbol,
    String.append_assoc]

end KeyRef

/-! ### Documents -/

/-- A key is undrawable if it is among the kept keys of its table and cannot be drawn. -/
theorem KeyRef.undrawable_iff {name : String} {key : KeyRef} :
    key.Undrawable rows name ↔
      key ∈ keysAt rows ⟨name, key.owner.table⟩ ∧ ¬(key.manyToOne rows).Drawable := by
  rw [mem_keysAt, not_drawable_iff, Undrawable, and_assoc]
  refine and_congr_right fun _ => and_congr_left fun _ => ?_
  constructor
  · rintro rfl
    rfl
  · exact congrArg TableRef.schema

/-- A built table is drawable if all its keys are. -/
theorem builtTable_drawable {ref : TableRef}
    (h : ∀ key ∈ keysAt rows ref, (key.manyToOne rows).Drawable) :
    (builtTable rows ref).Drawable := by
  intro relation hrelation
  rw [builtTable_manyToOne] at hrelation
  obtain ⟨key, hkey, rfl⟩ := List.mem_map.1 hrelation
  exact h key hkey

/-- The relation lines of a built table are those of its keys, key by key. -/
theorem builtTable_relationLines (rows : List Row) (ref : TableRef) :
    (builtTable rows ref).relationLines =
      (keysAt rows ref).flatMap fun key => (key.manyToOne rows).drawnLines := by
  rw [Table.relationLines, builtTable_manyToOne, List.flatMap_map]

/-- **The document of a schema without undrawable keys.** -/
theorem builtSchema_document_ok {name : String} (h : ∀ key : KeyRef, ¬key.Undrawable rows name) :
    ∃ document, ((builtSchema rows name).document .lenient).1 = .ok document ∧
      document.text = "\n\n".intercalate ((builtSchema rows name).tables.map Table.block) ++
        "\n\n" ++ "\n".intercalate ((tableNames rows name).map fun table =>
          "\n".intercalate ((keysAt rows ⟨name, table⟩).flatMap fun key =>
            (key.manyToOne rows).drawnLines)) := by
  have hdrawable : ∀ table ∈ (builtSchema rows name).tables, table.Drawable := by
    intro table htable
    obtain ⟨t, -, rfl⟩ := mem_builtSchema_tables.1 htable
    refine builtTable_drawable fun key hkey => by_contra fun hnot => ?_
    obtain ⟨-, howner⟩ := mem_keysAt.1 hkey
    exact h key (KeyRef.undrawable_iff.2 ⟨howner ▸ hkey, hnot⟩)
  -- The groups of lines, table by table.
  have hrelations : ((builtSchema rows name).tables.map Table.drawing).map (·.relations) =
      (tableNames rows name).map fun table =>
        "\n".intercalate ((keysAt rows ⟨name, table⟩).flatMap fun key =>
          (key.manyToOne rows).drawnLines) := by
    rw [builtSchema_tables, List.map_map, List.map_map]
    refine List.map_congr_left fun table _ => ?_
    rw [← builtTable_relationLines]
    rfl
  rw [Schema.document_ok hdrawable]
  refine ⟨_, rfl, ?_⟩
  rw [documentText, hrelations, List.map_map]
  rfl

/-- The document of a schema is refused at a key that is not drawable, if all keys of the tables
before its table and all keys of its table before it are drawable. -/
theorem builtSchema_document_error_at {name table : String} {tablesBefore tablesAfter : List String}
    {first : KeyRef} {before after : List KeyRef}
    (htables : tableNames rows name = tablesBefore ++ table :: tablesAfter)
    (htablesBefore : ∀ t ∈ tablesBefore, ∀ key ∈ keysAt rows ⟨name, t⟩,
      (key.manyToOne rows).Drawable)
    (hkeys : keysAt rows ⟨name, table⟩ = before ++ first :: after)
    (hbefore : ∀ key ∈ before, (key.manyToOne rows).Drawable)
    (hfirst : ¬(first.manyToOne rows).Drawable) :
    ((builtSchema rows name).document .lenient).1 = .error (.missingJoinColumn first.name) := by
  -- What is split by names here is split by tables and relations there.
  have htablesSplit : (builtSchema rows name).tables =
      tablesBefore.map (fun t => builtTable rows ⟨name, t⟩) ++
        builtTable rows ⟨name, table⟩ :: tablesAfter.map fun t => builtTable rows ⟨name, t⟩ := by
    rw [builtSchema_tables, htables, List.map_append, List.map_cons]
  have hrelationsSplit : (builtTable rows ⟨name, table⟩).manyToOne =
      before.map (KeyRef.manyToOne rows) ++
        first.manyToOne rows :: after.map (KeyRef.manyToOne rows) := by
    rw [builtTable_manyToOne, hkeys, List.map_append, List.map_cons]
  have hdrawableTables : ∀ other ∈ tablesBefore.map (fun t => builtTable rows ⟨name, t⟩),
      other.Drawable :=
    List.forall_mem_map.2 fun t ht => builtTable_drawable (htablesBefore t ht)
  rw [Schema.document_error htablesSplit hdrawableTables hrelationsSplit
    (List.forall_mem_map.2 hbefore) hfirst]
  rfl

/-- **The document of a schema with undrawable keys** is refused at the first of them. -/
theorem builtSchema_document_error {name : String} (h : ∃ key : KeyRef, key.Undrawable rows name) :
    ∃ first : KeyRef, first.FirstUndrawable rows name ∧
      ((builtSchema rows name).document .lenient).1 = .error (.missingJoinColumn first.name) := by
  -- The first of these keys is the first one at the first table that has one.
  have htable : ∃ table ∈ tableNames rows name, ∃ key ∈ keysAt rows ⟨name, table⟩,
      ¬(key.manyToOne rows).Drawable := by
    obtain ⟨key, hkey⟩ := h
    obtain ⟨hat, hnot⟩ := KeyRef.undrawable_iff.1 hkey
    obtain ⟨hkept, howner⟩ := mem_keysAt.1 hat
    exact ⟨key.owner.table, mem_tableNames.2 (howner ▸ hkept.1.registered), key, hat, hnot⟩
  obtain ⟨tablesBefore, table, tablesAfter, htables, hkey, htablesBefore, htablesLater⟩ :=
    exists_first (tableNames_pairwise rows name) htable
  obtain ⟨before, first, after, hkeys, hfirst, hbefore, hlater⟩ :=
    exists_first (keysAt_pairwise rows ⟨name, table⟩) hkey
  have hat : first ∈ keysAt rows ⟨name, table⟩ := by simp [hkeys]
  obtain ⟨-, howner⟩ := mem_keysAt.1 hat
  refine ⟨first, ⟨KeyRef.undrawable_iff.2 ⟨howner ▸ hat, hfirst⟩, fun other hother => ?_⟩, ?_⟩
  · -- Another undrawable key is at a later table, or it is a later key of this one.
    obtain ⟨hotherAt, hotherNot⟩ := KeyRef.undrawable_iff.1 hother
    obtain ⟨hotherKept, hotherOwner⟩ := mem_keysAt.1 hotherAt
    have hregistered := mem_tableNames.2 (hotherOwner ▸ hotherKept.1.registered)
    rw [howner]
    rcases htablesLater _ hregistered ⟨other, hotherAt, hotherNot⟩ with hsame | hlaterTable
    · rw [hsame] at hotherAt ⊢
      exact (hlater other hotherAt hotherNot).imp_right fun hname => .inr ⟨rfl, hname⟩
    · exact .inr (.inl hlaterTable)
  · refine builtSchema_document_error_at htables (fun t ht key hkey => ?_) hkeys
      (fun key hkey => not_not.1 (hbefore key hkey)) hfirst
    exact by_contra fun hnot => htablesBefore t ht ⟨key, hkey, hnot⟩

/-- **Each kept key is drawn exactly once.** The kept keys of all tables of all schemas, table by
table and key by key in the order of names, are all kept keys without repetitions. If a schema
has an undrawable key, its document is refused at the first one. Otherwise each of its keys has
its lines, and after the blocks of the tables the document consists of these lines, in a group
for each table. -/
theorem kept_keys_drawn_exactly_once (rows : List Row) (hrows : KeyPositionsDistinct rows) :
    ((∀ ref key, key ∈ keysAt rows ref ↔ key.Kept rows ∧ key.owner = ref) ∧
      (∀ ref, (keysAt rows ref).Pairwise fun a b => a.name < b.name) ∧
      (Catalog.build rows).schemas.flatMap (Schema.keptKeys rows) = keptKeys rows ∧
      (keptKeys rows).Nodup) ∧
    ∃ lines : KeyRef → List String, ∀ schema ∈ (Catalog.build rows).schemas,
      schema.tableNames.Pairwise (· < ·) ∧
      ((∃ key : KeyRef, key.Undrawable rows schema.name) →
        ∃ first : KeyRef, first.FirstUndrawable rows schema.name ∧
          (schema.document .lenient).1 = .error (.missingJoinColumn first.name)) ∧
      ((∀ key : KeyRef, ¬key.Undrawable rows schema.name) →
        (∀ key ∈ schema.keptKeys rows, key.DrawnAs rows (lines key)) ∧
        ∃ document, (schema.document .lenient).1 = .ok document ∧
          document.text = "\n\n".intercalate (schema.tables.map Table.block) ++ "\n\n" ++
            "\n".intercalate (schema.tableNames.map fun table =>
              "\n".intercalate ((keysAt rows ⟨schema.name, table⟩).flatMap lines))) := by
  refine ⟨⟨fun ref key => mem_keysAt, keysAt_pairwise rows, build_keptKeys rows,
    keptKeys_nodup rows⟩, fun key => (key.manyToOne rows).drawnLines, fun schema hschema => ?_⟩
  obtain ⟨name, -, rfl⟩ := mem_build_schemas.1 hschema
  rw [builtSchema_tableNames]
  refine ⟨tableNames_pairwise rows name, builtSchema_document_error,
    fun hall => ⟨fun key hkey => ?_, builtSchema_document_ok hall⟩⟩
  -- What is left are the lines of a key, which is drawable since no key is undrawable.
  obtain ⟨table, -, hkey⟩ := List.mem_flatMap.1 hkey
  obtain ⟨-, howner⟩ := mem_keysAt.1 hkey
  refine KeyRef.drawnAs_of_drawable hrows (by_contra fun hnot => hall key ?_)
  exact KeyRef.undrawable_iff.2 ⟨howner ▸ hkey, hnot⟩

/-- The key of the tickets onto the seats. -/
def seatKey : KeyRef := ⟨⟨"public", "tickets"⟩, "seat_key"⟩

/-- The only kept key of the tickets is the one onto the seats. -/
theorem keptKeys_ticketRows : keptKeys ticketRows = [seatKey] := by
  refine eq_of_pairwise_of_mem_iff KeyRef.Before.asymm (keptKeys_pairwise _)
    (List.pairwise_singleton _ _) fun key => ?_
  rw [mem_keptKeys, List.mem_singleton]
  constructor
  · -- Every row that describes a key describes this one.
    rintro ⟨⟨row, hrow, hkey⟩, -⟩
    have hall : ∀ key ∈ ticketRows.filterMap Row.key?, key = seatKey := by decide
    exact hall key (List.mem_filterMap.2 ⟨row, hrow, hkey⟩)
  · rintro rfl
    decide

/-- The seats have no relation lines, and the tickets have those of their one key. -/
theorem kept_keys_drawn_exactly_once_tickets :
    KeyPositionsDistinct ticketRows ∧
    ∃ (lines : List String) (schema : Schema) (document : Document),
      schema ∈ (Catalog.build ticketRows).schemas ∧ seatKey.DrawnAs ticketRows lines ∧
      (schema.document .lenient).1 = .ok document ∧
      document.text = "\n\n".intercalate (schema.tables.map Table.block) ++ "\n\n" ++
        "\n".intercalate ["", "\n".intercalate lines] := by
  have hdistinct := ticketRows_unambiguous.toKeyPositionsDistinct
  obtain ⟨-, lines, hschemas⟩ := kept_keys_drawn_exactly_once ticketRows hdistinct
  have htickets : ∃ row ∈ ticketRows, row.schemaName = "public" :=
    ⟨.primaryKey "public" "seats" "line", by simp [ticketRows], rfl⟩
  have hschema := mem_build_schemas.2 ⟨"public", htickets, rfl⟩
  have hnames : (builtSchema ticketRows "public").tableNames = ["seats", "tickets"] := by
    rw [builtSchema_tableNames]
    refine eq_of_pairwise_of_mem_iff string_lt_asymm (tableNames_pairwise _ _) (by decide)
      fun table => ?_
    rw [mem_tableNames]
    simp [Registered, ticketRows, Row.owner?, Row.tableName?, Row.schemaName, eq_comm]
  -- The index has an expression first and then a plain column, which is enough.
  have hall : ∀ key : KeyRef, ¬key.Undrawable ticketRows "public" := by
    rintro key ⟨hkept, -, hnone⟩
    rw [← mem_keptKeys, keptKeys_ticketRows, List.mem_singleton] at hkept
    subst hkept
    exact absurd hnone (by decide)
  obtain ⟨-, -, hdrawn⟩ := hschemas _ hschema
  obtain ⟨hlines, document, hdocument, htext⟩ := hdrawn hall
  refine ⟨hdistinct, lines seatKey, _, document, hschema, hlines seatKey ?_, hdocument, ?_⟩
  · simp [Schema.keptKeys, hnames, keysAt, keptKeys_ticketRows, seatKey]
  · rw [htext, hnames]
    simp [keysAt, keptKeys_ticketRows, seatKey]

end SchemaDiagram
