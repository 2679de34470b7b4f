import SchemaDiagram.Proofs.BuiltValidity

/-!
# The order of rows

A catalog depends on the facts that its rows state, hardly on the order in which they come. What
it depends on is `SameFacts`: which rows there are, in which order schemas are first mentioned,
the columns of each table and the link of each key (`SameFacts.build_eq`). The order of rows
shows only where two rows claim the same place or give a key different targets, and
`Unambiguous` excludes just that:

* `SameFacts.of_perm`: rows that are unambiguous may come in any order, as long as schemas are
  first mentioned in the same order;
* `SameFacts.of_repeated`: a row that only states that something is there (`Row.isAnnouncement`)
  may be repeated after it was given, whatever the other rows are.
-/

namespace SchemaDiagram

/-! ### Rows that state the same facts -/

/-- **Same facts.** All that a catalog takes from its rows is the same. -/
structure SameFacts (rows rows' : List Row) : Prop where
  schemas : schemaNames rows' = schemaNames rows
  members : ∀ row, row ∈ rows' ↔ row ∈ rows
  columns : ∀ ref, columnsOf (rowsOf rows' ref) = columnsOf (rowsOf rows ref)
  links : ∀ key : KeyRef, key.link rows' = key.link rows

namespace SameFacts

variable {rows rows' : List Row}

/-- The same facts register the same tables in each schema. -/
theorem tableNames_eq (h : SameFacts rows rows') (name : String) :
    tableNames rows' name = tableNames rows name := by
  refine sortedNames_congr fun table => ?_
  simp only [List.mem_filterMap, List.mem_filter, h.members]

/-- The same facts register the same tables altogether, in the same order. -/
theorem registered_eq (h : SameFacts rows rows') : registered rows' = registered rows := by
  rw [registered, registered, h.schemas]
  exact List.flatMap_congr fun name _ => by rw [h.tableNames_eq]

/-- The same facts describe the same keys, in the same order. -/
theorem allKeys_eq (h : SameFacts rows rows') : allKeys rows' = allKeys rows := by
  rw [allKeys, allKeys, h.registered_eq]
  refine List.flatMap_congr fun ref _ => ?_
  have hnames : sortedNames ((rowsOf rows' ref).filterMap Row.keyName?) =
      sortedNames ((rowsOf rows ref).filterMap Row.keyName?) := by
    refine sortedNames_congr fun name => ?_
    simp only [rowsOf, List.mem_filterMap, List.mem_filter, h.members]
  rw [hnames]

/-- The same facts give the same links. -/
theorem allLinks_eq (h : SameFacts rows rows') : allLinks rows' = allLinks rows := by
  rw [SchemaDiagram.allLinks_eq, SchemaDiagram.allLinks_eq, h.allKeys_eq]
  exact List.map_congr_left fun key _ => h.links key

/-- **Same facts, same catalog.** -/
theorem build_eq (h : SameFacts rows rows') : Catalog.build rows' = Catalog.build rows := by
  -- Relations are derived from the links alone, tables from their columns and relations.
  have hlinks : SchemaDiagram.links rows' = SchemaDiagram.links rows := by
    rw [SchemaDiagram.links, SchemaDiagram.links, h.allLinks_eq, h.registered_eq]
  have htable : ∀ ref, builtTable rows' ref = builtTable rows ref := by
    intro ref
    rw [builtTable, builtTable, buildTable, buildTable, hlinks, h.columns]
  have hschema : ∀ name, builtSchema rows' name = builtSchema rows name := by
    intro name
    rw [builtSchema, builtSchema, h.tableNames_eq]
    simp only [htable]
  have hschemas : (Catalog.build rows').schemas = (Catalog.build rows).schemas := by
    rw [build_schemas, build_schemas, h.schemas]
    exact List.map_congr_left fun name _ => hschema name
  exact congrArg Catalog.mk hschemas

/-- **Same facts, same warnings.** -/
theorem buildWarnings_eq (h : SameFacts rows rows') : buildWarnings rows' = buildWarnings rows := by
  rw [buildWarnings, buildWarnings, h.allLinks_eq, h.registered_eq]

end SameFacts

/-- The columns of a table depend on its sorted column rows and on the members of its primary
key. -/
theorem columnsOf_congr {rows rows' : List Row} (hmembers : ∀ row, row ∈ rows' ↔ row ∈ rows)
    (hsorted : ((rows'.filterMap Row.column?).mergeSort fun a b => decide (a.ordinal ≤ b.ordinal)) =
      (rows.filterMap Row.column?).mergeSort fun a b => decide (a.ordinal ≤ b.ordinal)) :
    columnsOf rows' = columnsOf rows := by
  rw [columnsOf, columnsOf, hsorted]
  -- What is left is the primary key, where only the members count.
  refine List.map_congr_left fun row _ => ?_
  have hkey : row.name ∈ rows'.filterMap Row.primaryKeyColumn? ↔
      row.name ∈ rows.filterMap Row.primaryKeyColumn? := by
    simp only [List.mem_filterMap, hmembers]
  simp only [hkey]

/-! ### Unambiguous rows -/

/-- The table that a row of a key names as its target. -/
def ForeignKeyRow.target (row : ForeignKeyRow) : TableRef := ⟨row.targetSchema, row.targetTable⟩

/-- **Distinct positions** inside each key: of its columns, and of its index entries. -/
structure KeyPositionsDistinct (rows : List Row) : Prop where
  sources : ∀ key : KeyRef, ((key.sources rows).map (·.position)).Nodup
  entries : ∀ key : KeyRef, ((key.entries rows).map (·.position)).Nodup

/-- **Unambiguous rows.** No two columns of a table have the same ordinal, no two columns and no
two index entries of a key the same position, and all rows of a key name the same target. -/
structure Unambiguous (rows : List Row) : Prop extends KeyPositionsDistinct rows where
  ordinals : ∀ ref, ((columnRows rows ref).map (·.ordinal)).Nodup
  target : ∀ key : KeyRef, ∀ a ∈ key.sources rows, ∀ b ∈ key.sources rows, a.target = b.target

/-- Where all rows of a key name one target, each of them says where the key leads. -/
theorem KeyRef.target_of_mem {rows : List Row} {key : KeyRef} {row : ForeignKeyRow}
    (hagree : ∀ a ∈ key.sources rows, ∀ b ∈ key.sources rows, a.target = b.target)
    (hrow : row ∈ key.sources rows) : key.target rows = row.target := by
  -- The last row decides, and it agrees with the given one.
  have hne : key.sources rows ≠ [] := List.ne_nil_of_mem hrow
  have hlast : ((key.rowsIn rows).filterMap Row.foreignKey?).getLast? =
      some ((key.sources rows).getLast hne) := List.getLast?_eq_some_getLast hne
  rw [target, hlast]
  exact hagree _ (List.getLast_mem hne) _ hrow

/-- A key that only has index entries targets the table without a name. -/
theorem KeyRef.target_of_sources_eq_nil {rows : List Row} {key : KeyRef}
    (h : key.sources rows = []) : key.target rows = ⟨"", ""⟩ := by
  have hnone : (key.rowsIn rows).filterMap Row.foreignKey? = [] := h
  rw [target, hnone]
  rfl

/-- **The link of a key** depends on its sources and on its entries. -/
theorem KeyRef.link_congr {rows rows' : List Row} {key : KeyRef}
    (hsources : key.sources rows' = key.sources rows)
    (hentries : key.entries rows' = key.entries rows) : key.link rows' = key.link rows := by
  have htarget : key.target rows' = key.target rows := by
    rw [sources, sources] at hsources
    rw [target, target, hsources]
  rw [link, link, htarget, foreignKey_eq, foreignKey_eq, hsources, hentries]

/-! ### Permuted rows -/

section Perm

variable {rows rows' : List Row}

/-- Permuted rows have the same column rows, in some order. -/
theorem columnRows_perm (h : rows.Perm rows') (ref : TableRef) :
    (columnRows rows ref).Perm (columnRows rows' ref) := (h.filter _).filterMap _

/-- Permuted rows have the same sources of a key, in some order. -/
theorem KeyRef.sources_perm (h : rows.Perm rows') (key : KeyRef) :
    (key.sources rows).Perm (key.sources rows') := (h.filter _).filterMap _

/-- Permuted rows have the same entries of a key, in some order. -/
theorem KeyRef.entries_perm (h : rows.Perm rows') (key : KeyRef) :
    (key.entries rows).Perm (key.entries rows') := (h.filter _).filterMap _

/-- A key leads to the same target after a permutation, if its rows name only one. -/
theorem KeyRef.target_perm (h : rows.Perm rows') (key : KeyRef)
    (hagree : ∀ a ∈ key.sources rows, ∀ b ∈ key.sources rows, a.target = b.target) :
    key.target rows' = key.target rows := by
  have hsources := KeyRef.sources_perm h key
  -- A key may have no sources, and then it has none in any order.
  cases hrow : key.sources rows with
  | nil =>
    have hnone : key.sources rows' = [] := by
      rw [hrow] at hsources
      exact List.nil_perm.1 hsources
    rw [target_of_sources_eq_nil hrow, target_of_sources_eq_nil hnone]
  | cons row others =>
    have hmem : row ∈ key.sources rows := by
      rw [hrow]
      exact List.mem_cons_self
    -- The rows of the key agree, in whatever order they come.
    have hagree' : ∀ a ∈ key.sources rows', ∀ b ∈ key.sources rows', a.target = b.target := by
      intro a ha b hb
      exact hagree a (hsources.mem_iff.2 ha) b (hsources.mem_iff.2 hb)
    rw [target_of_mem hagree hmem, target_of_mem hagree' (hsources.mem_iff.1 hmem)]

/-- A key has the same columns and index entries after a permutation, if their positions differ. -/
theorem KeyRef.foreignKey_perm (h : rows.Perm rows') (hrows : KeyPositionsDistinct rows)
    (key : KeyRef) : key.foreignKey rows' = key.foreignKey rows := by
  have hcolumns := sorted_eq_of_perm ForeignKeyRow.position (sources_perm h key) (hrows.sources key)
  have hindex := sorted_eq_of_perm IndexEntryRow.position (entries_perm h key) (hrows.entries key)
  rw [foreignKey_eq, foreignKey_eq, hcolumns, hindex]

/-- **Permuted rows** state the same facts if they are unambiguous. -/
theorem SameFacts.of_perm (h : rows.Perm rows') (hschemas : schemaNames rows' = schemaNames rows)
    (hrows : Unambiguous rows) : SameFacts rows rows' where
  schemas := hschemas
  members _ := h.symm.mem_iff
  columns ref := by
    have hsorted := sorted_eq_of_perm ColumnRow.ordinal (columnRows_perm h ref) (hrows.ordinals ref)
    exact columnsOf_congr (fun row => (h.symm.filter _).mem_iff) hsorted.symm
  links key := by
    rw [KeyRef.link, KeyRef.link, key.target_perm h (hrows.target key),
      key.foreignKey_perm h hrows.toKeyPositionsDistinct]

end Perm

/-! ### Repeated rows -/

/-- **Announcement.** The row states that a schema, a table or a column of a primary key is
there, and nothing else. -/
def Row.isAnnouncement : Row → Bool
  | schema _ => true
  | table _ _ => true
  | primaryKey _ _ _ => true
  | _ => false

/-- An announcement describes no column and no key. -/
theorem Row.isAnnouncement_describes_nothing {row : Row} (h : row.isAnnouncement) :
    row.column? = none ∧ row.foreignKey? = none ∧ row.indexEntry? = none := by
  cases row with
  | schema | table | primaryKey => exact ⟨rfl, rfl, rfl⟩
  | column | foreignKey | indexEntry => nomatch h

section Repeated

variable {before after : List Row} {row : Row}

/-- A row that does not concern a property of rows does not show in what they have of it. -/
theorem filterMap_filter_append_cons {α : Type} {f : Row → Option α} (hrow : f row = none)
    (p : Row → Bool) : ((before ++ row :: after).filter p).filterMap f =
      ((before ++ after).filter p).filterMap f := by
  rw [List.filter_append, List.filter_append, List.filterMap_append, List.filterMap_append,
    List.filter_cons]
  split
  · rw [List.filterMap_cons_none hrow]
  · rfl

/-- A row that is there already adds no member. -/
theorem mem_append_cons_of_mem (h : row ∈ before) (other : Row) :
    other ∈ before ++ row :: after ↔ other ∈ before ++ after := by
  simp only [List.mem_append, List.mem_cons]
  constructor
  · rintro (hother | rfl | hother)
    · exact .inl hother
    · exact .inl h
    · exact .inr hother
  · rintro (hother | hother)
    · exact .inl hother
    · exact .inr (.inr hother)

/-- **A repeated announcement** states nothing new. -/
theorem SameFacts.of_repeated (hrow : row ∈ before) (hannounced : row.isAnnouncement) :
    SameFacts (before ++ after) (before ++ row :: after) := by
  obtain ⟨hcolumn, hsource, hentry⟩ := Row.isAnnouncement_describes_nothing hannounced
  refine ⟨?_, mem_append_cons_of_mem hrow, fun ref => ?_, fun key => ?_⟩
  · -- The schema of the row has been mentioned before.
    rw [schemaNames, schemaNames, List.map_append, List.map_append, List.map_cons]
    exact eraseDups_append_cons_of_mem (List.mem_map_of_mem hrow)
  · -- No column is described, and the primary key gets a column that it has.
    refine columnsOf_congr (fun other => ?_) ?_
    · rw [rowsOf, rowsOf, List.mem_filter, List.mem_filter, mem_append_cons_of_mem hrow]
    · rw [rowsOf, rowsOf, filterMap_filter_append_cons hcolumn]
  · -- No key is described.
    have hsources : key.sources (before ++ row :: after) = key.sources (before ++ after) :=
      filterMap_filter_append_cons hsource _
    have hentries : key.entries (before ++ row :: after) = key.entries (before ++ after) :=
      filterMap_filter_append_cons hentry _
    exact KeyRef.link_congr hsources hentries

end Repeated

/-- **Independence of the row order.** Unambiguous rows build the same catalog in any order that
first mentions the schemas in the same order, and give the same warnings in the same order.
Repeating an announcement anywhere after it was given changes nothing, whatever the rows are. -/
theorem build_independent_of_row_order :
    (∀ rows rows' : List Row, rows.Perm rows' → schemaNames rows' = schemaNames rows →
      Unambiguous rows → Catalog.build rows' = Catalog.build rows ∧
        buildWarnings rows' = buildWarnings rows) ∧
    ∀ (before after : List Row) (row : Row), row ∈ before → row.isAnnouncement →
      Catalog.build (before ++ row :: after) = Catalog.build (before ++ after) ∧
        buildWarnings (before ++ row :: after) = buildWarnings (before ++ after) := by
  constructor
  · intro rows rows' hperm hschemas hrows
    have h := SameFacts.of_perm hperm hschemas hrows
    exact ⟨h.build_eq, h.buildWarnings_eq⟩
  · intro before after row hrow hannounced
    have h : SameFacts (before ++ after) (before ++ row :: after) := .of_repeated hrow hannounced
    exact ⟨h.build_eq, h.buildWarnings_eq⟩

/-- The rows of tickets with a key of two columns onto seats. -/
def ticketRows : List Row :=
  let integer : SqlType := ⟨"integer", none, false, false⟩
  [.column ⟨"public", "seats", "line", 1, integer, true, none⟩,
    .column ⟨"public", "seats", "number", 2, integer, true, none⟩,
    .primaryKey "public" "seats" "line", .primaryKey "public" "seats" "number",
    .foreignKey ⟨"public", "tickets", "seat_key", "public", "seats", "seat_line", 1⟩,
    .foreignKey ⟨"public", "tickets", "seat_key", "public", "seats", "seat_number", 2⟩,
    .indexEntry ⟨"public", "tickets", "seat_key", 1, .expression "lower(hall)"⟩,
    .indexEntry ⟨"public", "tickets", "seat_key", 2, .column "line"⟩]

/-- The rows of the tickets are unambiguous: each kind of position differs in all of them
together. -/
theorem ticketRows_unambiguous : Unambiguous ticketRows where
  sources key := by
    have hall : ((ticketRows.filterMap Row.foreignKey?).map (·.position)).Nodup := by decide
    exact hall.sublist ((List.filter_sublist.filterMap _).map _)
  entries key := by
    have hall : ((ticketRows.filterMap Row.indexEntry?).map (·.position)).Nodup := by decide
    exact hall.sublist ((List.filter_sublist.filterMap _).map _)
  ordinals ref := by
    have hall : ((ticketRows.filterMap Row.column?).map (·.ordinal)).Nodup := by decide
    exact hall.sublist ((List.filter_sublist.filterMap _).map _)
  target key a ha b hb := by
    have hall : ∀ row ∈ ticketRows.filterMap Row.foreignKey?, row.target = ⟨"public", "seats"⟩ := by
      decide
    have hsub : (key.sources ticketRows).Sublist (ticketRows.filterMap Row.foreignKey?) :=
      List.filter_sublist.filterMap _
    rw [hall a (hsub.subset ha), hall b (hsub.subset hb)]

/-- The rows of the tickets may come from the last to the first, and the table of the seats may
be announced by its key once more. -/
theorem build_independent_of_row_order_tickets :
    (ticketRows.Perm ticketRows.reverse ∧ schemaNames ticketRows.reverse = schemaNames ticketRows ∧
      Unambiguous ticketRows ∧ Catalog.build ticketRows.reverse = Catalog.build ticketRows) ∧
    Catalog.build (ticketRows ++ [.primaryKey "public" "seats" "line"]) =
      Catalog.build ticketRows := by
  obtain ⟨hordered, hrepeated⟩ := build_independent_of_row_order
  have hperm : ticketRows.Perm ticketRows.reverse := (List.reverse_perm _).symm
  have hschemas : schemaNames ticketRows.reverse = schemaNames ticketRows := by decide
  refine ⟨⟨hperm, hschemas, ticketRows_unambiguous,
    (hordered _ _ hperm hschemas ticketRows_unambiguous).1⟩, ?_⟩
  have hgiven : Row.primaryKey "public" "seats" "line" ∈ ticketRows := by simp [ticketRows]
  have hsame := (hrepeated ticketRows [] _ hgiven rfl).1
  rwa [List.append_nil] at hsame

end SchemaDiagram
