import SchemaDiagram.Proofs.BuiltCatalog
import SchemaDiagram.Proofs.CollectedRows

/-!
# From drafts to the catalog

What a builder has collected comes to the built catalog (`Builder.build_ofRows`), and the keys that
it leaves out to the warnings (`Builder.warnings_ofRows`). Three loops lie between them:

* draining the drafts schema by schema, which sorts the links by their targets on the way
  (`Assembly.drain_eq`);
* in it, the tables of a schema (`Assembly.addSchema_eq`);
* attaching the derived relations, each to the table where it starts (`bareCatalog_foldl`).
-/

namespace SchemaDiagram

/-! ### Finished drafts -/

/-- Entries that are made from rows are sorted as the rows are. -/
theorem inPosition_map {α β : Type} (position : α → Int32) (value : α → β) (l : List α) :
    inPosition (l.map fun a => (position a, value a)) =
      (l.mergeSort fun a b => decide (position a ≤ position b)).map value := by
  rw [inPosition, ← List.map_mergeSort (r := fun a b => decide (position a ≤ position b))
    (fun a _ b _ => rfl), List.map_map]
  rfl

/-- The link of a key comes out of its draft as it does out of its rows. -/
theorem KeyDraft.Collects.link {draft : KeyDraft} {rows : List Row} (h : draft.Collects rows)
    (owner : TableRef) (name : String) : draft.link owner name =
      { owner, target := targetOf rows, foreignKey := foreignKeyOf rows name } := by
  rw [KeyDraft.link, h.target, h.columns, h.index, inPosition_map, inPosition_map]
  rfl

namespace TableDraft

/-- The links of the keys of a table. -/
def links (draft : TableDraft) (owner : TableRef) : List Link :=
  draft.foreignKeys.entries.map fun key => key.2.link owner key.1

namespace Collects

variable {draft : TableDraft} {rows : List Row}

/-- The table of a draft has the columns of its rows, in their order, and no relations yet. -/
theorem table (h : draft.Collects rows) (name : String) :
    draft.table name = { name, columns := columnsOf rows, relations := [] } := by
  rw [TableDraft.table, h.columns, inPosition_map, List.map_map, columnsOf]
  simp only [h.primaryKey]
  rfl

/-- The keys of a draft are those of its rows, by name. -/
theorem keyNames (h : draft.Collects rows) :
    draft.foreignKeys.names = sortedNames (rows.filterMap Row.keyName?) := by
  refine eq_of_pairwise_of_mem_iff string_lt_asymm draft.foreignKeys.names_ordered
    (sortedNames_pairwise _) fun name => ?_
  rw [h.names, mem_sortedNames]

/-- The links of a draft are those that its rows describe. -/
theorem links (h : draft.Collects rows) (owner : TableRef) :
    draft.links owner = linksOf rows owner := by
  rw [TableDraft.links, linksOf, ← h.keyNames]
  -- The names agree, so it is enough that each key collects its own rows.
  refine NameMap.map_entries fun name key hkey => ?_
  have hcollects := h.keys name
  rw [TableDraft.key, hkey] at hcollects
  exact hcollects.link owner name

end Collects

end TableDraft

/-! ### Draining -/

namespace Assembly

variable {known : List TableRef}

/-- The assembly with more links, each sorted in by its target. -/
def withLinks (assembly : Assembly) (known : List TableRef) (links : List Link) : Assembly :=
  ⟨assembly.schemas, assembly.links ++ links.filter (·.isKept known),
    assembly.skipped ++ links.filter (!·.isKept known)⟩

/-- Adding no links changes nothing. -/
theorem withLinks_nil (assembly : Assembly) : assembly.withLinks known [] = assembly := by
  rw [withLinks, List.filter_nil, List.filter_nil, List.append_nil, List.append_nil]

/-- Adding links in two runs is adding them all. -/
theorem withLinks_append (assembly : Assembly) (a b : List Link) :
    (assembly.withLinks known a).withLinks known b = assembly.withLinks known (a ++ b) := by
  simp only [withLinks, List.filter_append, List.append_assoc]

/-- Adding links one by one is adding them all, each to the kept or to the skipped ones. -/
theorem foldl_addLink (assembly : Assembly) (links : List Link) :
    links.foldl (addLink known) assembly = assembly.withLinks known links := by
  induction links generalizing assembly with
  | nil => exact (withLinks_nil assembly).symm
  | cons link links ih =>
    -- One link is added like a list of one.
    rw [List.foldl_cons, ih, ← List.singleton_append, ← withLinks_append]
    congr 1
    unfold addLink withLinks
    split
    · next hkept => simp [hkept]
    · next hskipped => simp [hskipped]

/-- The links of the tables of a schema. -/
def linksIn (schema : String) (tables : NameMap TableDraft) : List Link :=
  tables.entries.flatMap fun entry => entry.2.links ⟨schema, entry.1⟩

/-- The tables of a schema come to their tables and to the links of all their keys, in order. -/
theorem foldl_addTable (schema : String) (entries : List (String × TableDraft))
    (assembly : Assembly) (tables : List Table) :
    entries.foldl (addTable known schema) (assembly, tables) =
      (assembly.withLinks known (entries.flatMap fun entry => entry.2.links ⟨schema, entry.1⟩),
        tables ++ entries.map fun entry => entry.2.table entry.1) := by
  -- By the tables, for every assembly and for any tables that were added before.
  induction entries generalizing assembly tables with
  | nil => rw [List.foldl_nil, List.flatMap_nil, withLinks_nil, List.map_nil, List.append_nil]
  | cons entry entries ih =>
    rw [List.foldl_cons, addTable, foldl_addLink, ih, withLinks_append, List.flatMap_cons,
      List.map_cons, List.append_assoc, List.singleton_append]
    rfl

/-- A schema brings its tables and the links of their keys. -/
theorem addSchema_eq (assembly : Assembly) (schema : String) (tables : NameMap TableDraft) :
    assembly.addSchema known schema tables =
      { assembly.withLinks known (linksIn schema tables) with
        schemas := assembly.schemas ++
          [⟨schema, tables.entries.map fun entry => entry.2.table entry.1⟩] } := by
  rw [addSchema, foldl_addTable, List.nil_append]
  rfl

/-- **Draining.** As no schema comes twice, each is drained with its own tables, although the drafts
that were drained before it are gone. -/
theorem drain_eq (assembly : Assembly) {order : List String} (hnodup : order.Nodup)
    {drafts : NameMap (NameMap TableDraft)} {tables : String → NameMap TableDraft}
    (h : ∀ schema ∈ order, (drafts.find? schema).getD .empty = tables schema) :
    drain known assembly order drafts =
      { assembly.withLinks known (order.flatMap fun schema => linksIn schema (tables schema)) with
        schemas := assembly.schemas ++ order.map fun schema =>
          ⟨schema, (tables schema).entries.map fun entry => entry.2.table entry.1⟩ } := by
  -- On the order, for any drafts that still have the tables of the schemas to come.
  induction order generalizing assembly drafts with
  | nil =>
    rw [drain, List.flatMap_nil, withLinks_nil, List.map_nil, List.append_nil]
  | cons schema order ih =>
    obtain ⟨hnew, hnodup⟩ := List.nodup_cons.1 hnodup
    have hrest : ∀ other ∈ order,
        ((drafts.erase schema).find? other).getD .empty = tables other := by
      -- The schema that is drained is not among the others, so their drafts are still there.
      intro other hother
      have hne : other ≠ schema := fun heq => hnew (heq ▸ hother)
      rw [NameMap.find?_erase_of_ne _ hne]
      exact h other (List.mem_cons_of_mem _ hother)
    rw [drain, ih _ hnodup hrest, h schema List.mem_cons_self, addSchema_eq, List.flatMap_cons,
      ← withLinks_append, List.map_cons]
    simp only [withLinks, List.append_assoc, List.singleton_append]

end Assembly

namespace Builder.Collects

variable {builder : Builder} {rows : List Row}

/-- The tables of a schema. -/
theorem tables_names (h : builder.Collects rows) (schema : String) :
    (builder.tables schema).names = SchemaDiagram.tableNames rows schema := by
  -- Names in order on both sides, so only their members are compared.
  refine eq_of_pairwise_of_mem_iff string_lt_asymm (builder.tables schema).names_ordered
    (tableNames_pairwise rows schema) fun table => ?_
  rw [mem_tableNames]
  exact h.tableNames ⟨schema, table⟩

/-- The draft of a registered table. -/
theorem draft (h : builder.Collects rows) {schema table : String} {draft : TableDraft}
    (hdraft : (builder.tables schema).find? table = some draft) :
    draft.Collects (rowsOf rows ⟨schema, table⟩) := by
  have hcollects := h.drafts ⟨schema, table⟩
  rwa [hdraft] at hcollects

/-- The tables with a draft are the registered ones. -/
theorem mem_registered (h : builder.Collects rows) {ref : TableRef} :
    ref ∈ builder.registered ↔ Registered rows ref := by
  rw [← h.tableNames, registered, List.mem_flatMap]
  constructor
  · rintro ⟨entry, hentry, href⟩
    obtain ⟨table, htable, rfl⟩ := List.mem_map.1 href
    have hfound : builder.schemas.find? entry.1 = some entry.2 := NameMap.find?_of_mem hentry
    rwa [tables, hfound]
  · intro href
    obtain ⟨draft, hdraft⟩ := NameMap.mem_names.1 href
    -- There is a draft only in a schema that is registered.
    cases hschema : builder.schemas.find? ref.schema with
    | none =>
      rw [tables, hschema] at hdraft
      cases hdraft
    | some tables =>
      refine ⟨(ref.schema, tables), mem_of_lookup hschema, List.mem_map.2 ⟨ref.table, ?_, rfl⟩⟩
      rwa [Builder.tables, hschema] at href

/-- A builder keeps the links that the rows say are kept. -/
theorem isKept_registered (h : builder.Collects rows) (link : Link) :
    link.isKept builder.registered = link.isKept (SchemaDiagram.registered rows) := by
  rw [Link.isKept, Link.isKept, decide_eq_decide, h.mem_registered, SchemaDiagram.mem_registered]

end Builder.Collects

/-! ### Attaching relations -/

/-- The catalog of the rows, with other relations at its tables. -/
def bareCatalog (rows : List Row) (relations : TableRef → List Relation) : Catalog :=
  { schemas := (schemaNames rows).map fun schema =>
      { name := schema
        tables := (tableNames rows schema).map fun table =>
          { name := table
            columns := columnsOf (rowsOf rows ⟨schema, table⟩)
            relations := relations ⟨schema, table⟩ } } }

/-- Changing the first of some things that are made from distinct names, by its name. -/
theorem modify_findIdx_map {α : Type} (name : α → String) (make : String → α)
    (hname : ∀ s, name (make s) = s) (change : α → α) (s : String) {names : List String}
    (h : names.Nodup) :
    (names.map make).modify ((names.map make).findIdx fun a => decide (name a = s)) change =
      names.map fun n => if n = s then change (make n) else make n := by
  -- By the names: only the first thing of that name is changed, and there is only one.
  induction names with
  | nil => rfl
  | cons n names ih =>
    obtain ⟨hnew, hnames⟩ := List.nodup_cons.1 h
    rw [List.map_cons, List.map_cons, List.findIdx_cons, hname]
    by_cases hn : n = s
    · -- It is the first one, and no other has its name.
      subst hn
      have hothers :
          names.map (fun other => if other = n then change (make other) else make other) =
            names.map make :=
        List.map_congr_left fun other hother => if_neg (ne_of_mem_of_not_mem hother hnew)
      rw [decide_eq_true rfl, if_pos rfl, hothers]
      rfl
    · rw [decide_eq_false hn, if_neg hn]
      exact congrArg (make n :: ·) (ih hnames)

/-- A derived relation shows at the table where it starts. -/
theorem bareCatalog_addRelation (rows : List Row) (relations : TableRef → List Relation)
    (derived : Derived) : (bareCatalog rows relations).addRelation derived =
      bareCatalog rows fun ref =>
        if ref = derived.source then relations ref ++ [derived.relation] else relations ref := by
  rw [Catalog.addRelation, bareCatalog, bareCatalog,
    modify_findIdx_map Schema.name _ (fun _ => rfl) _ _ (schemaNames_nodup rows)]
  refine congrArg Catalog.mk (List.map_congr_left fun schema _ => ?_)
  split
  · -- The schema of the source: the change goes on to its tables.
    next hschema =>
    rw [Schema.addRelation, modify_findIdx_map Table.name _ (fun _ => rfl) _ _
      (tableNames_nodup rows schema)]
    refine congrArg (Schema.mk schema) (List.map_congr_left fun table _ => ?_)
    have href : TableRef.mk schema table = derived.source ↔ table = derived.source.table := by
      obtain ⟨source, relation⟩ := derived
      obtain ⟨sourceSchema, sourceTable⟩ := source
      rw [TableRef.mk.injEq, and_iff_right hschema]
    simp only [href]
    split
    · rfl
    · rfl
  · -- Any other schema: none of its tables is the source.
    next hschema =>
    refine congrArg (Schema.mk schema) (List.map_congr_left fun table _ => ?_)
    rw [if_neg fun heq => hschema (congrArg TableRef.schema heq)]

/-- **Attaching relations** one after the other gives each table those that start at it, in
order. -/
theorem bareCatalog_foldl (rows : List Row) (relations : TableRef → List Relation)
    (derived : List Derived) : derived.foldl Catalog.addRelation (bareCatalog rows relations) =
      bareCatalog rows fun ref => relations ref ++
        (derived.filter fun d => decide (d.source = ref)).map (·.relation) := by
  -- On the relations still to come, for any that are attached already.
  induction derived generalizing relations with
  | nil => simp
  | cons d derived ih =>
    rw [List.foldl_cons, bareCatalog_addRelation, ih]
    refine congrArg (bareCatalog rows) (funext fun ref => ?_)
    rw [List.filter_cons]
    -- The next relation goes behind those that its table has, and to no other table.
    by_cases href : d.source = ref
    · rw [if_pos href.symm, decide_eq_true href, if_pos rfl, List.map_cons, List.append_assoc,
        List.singleton_append]
    · rw [if_neg (Ne.symm href), decide_eq_false href, if_neg Bool.false_ne_true]

/-! ### The catalog -/

namespace Builder

/-- What the drafts of all rows come to. -/
theorem assembly_ofRows (rows : List Row) : (ofRows rows).assembly =
    ⟨(bareCatalog rows fun _ => []).schemas, links rows,
      (allLinks rows).filter (!·.isKept (SchemaDiagram.registered rows))⟩ := by
  have h := collects_ofRows rows
  have hnodup : (ofRows rows).schemaOrder.Nodup := by
    rw [h.schemaOrder]
    exact schemaNames_nodup rows
  -- Links and schemas of the drafts are those of the rows, schema by schema and table by table.
  have hlinks : ((ofRows rows).schemaOrder.flatMap fun schema =>
      Assembly.linksIn schema ((ofRows rows).tables schema)) = allLinks rows := by
    rw [h.schemaOrder, allLinks, SchemaDiagram.registered, List.flatMap_assoc]
    refine List.flatMap_congr fun schema _ => ?_
    rw [Assembly.linksIn, ← h.tables_names, List.flatMap_def, List.flatMap_map, List.flatMap_def]
    exact congrArg List.flatten
      (NameMap.map_entries fun table draft hdraft => (h.draft hdraft).links _)
  have hschemas : ((ofRows rows).schemaOrder.map fun schema => Schema.mk schema
      (((ofRows rows).tables schema).entries.map fun entry => entry.2.table entry.1)) =
        (bareCatalog rows fun _ => []).schemas := by
    rw [h.schemaOrder]
    refine List.map_congr_left fun schema _ => congrArg (Schema.mk schema) ?_
    rw [← h.tables_names]
    exact NameMap.map_entries fun table draft hdraft => (h.draft hdraft).table table
  have htables : ∀ schema ∈ (ofRows rows).schemaOrder,
      ((ofRows rows).schemas.find? schema).getD .empty = (ofRows rows).tables schema :=
    fun _ _ => rfl
  -- Both sides sort the links out by the same registered tables.
  rw [assembly, Assembly.drain_eq ⟨[], [], []⟩ hnodup htables]
  simp only [Assembly.withLinks, List.nil_append, h.isKept_registered]
  rw [hschemas, hlinks]
  rfl

/-- **The builder builds the catalog** of its rows. -/
theorem build_ofRows (rows : List Row) : (ofRows rows).build = Catalog.build rows := by
  rw [build, assembly_ofRows]
  exact bareCatalog_foldl rows (fun _ => []) (deriveRelations (links rows))

/-- **The builder warns** of the keys that are left out. -/
theorem warnings_ofRows (rows : List Row) : (ofRows rows).warnings = buildWarnings rows := by
  rw [warnings, assembly_ofRows]
  rfl

end Builder

end SchemaDiagram
