import SchemaDiagram.Proofs.DrawnKeys
import SchemaDiagram.Proofs.FilteredDocuments

/-!
# How many keys a document reports

A document records the names of the keys that it draws, and reports how many names these are. A key
is known by its table and its name, so this is the number of the keys that have lines only where
names and keys go together:

* two keys of one name, at different tables, are reported once;
* a key without columns is reported although it has no lines. That takes index entries alone and a
  table without a name, so it does not happen in rows that name their tables
  (`KeyRef.Kept.sources_ne_nil`).

`Schema.linedKeys` are the keys with lines, and `document_keys_size` is what is reported of them.
-/

namespace SchemaDiagram

variable {rows : List Row} {schema : Schema}

/-! ### The keys of a schema -/

/-- The kept keys of the tables of a built schema. -/
theorem Schema.mem_keptKeys (h : schema ∈ (Catalog.build rows).schemas) {key : KeyRef} :
    key ∈ schema.keptKeys rows ↔ key.Kept rows ∧ key.owner.schema = schema.name := by
  obtain ⟨name, -, rfl⟩ := mem_build_schemas.1 h
  rw [Schema.keptKeys, builtSchema_tableNames, List.mem_flatMap]
  simp only [mem_keysAt, builtSchema_name]
  constructor
  · rintro ⟨table, -, hkept, howner⟩
    exact ⟨hkept, congrArg TableRef.schema howner⟩
  · rintro ⟨hkept, rfl⟩
    exact ⟨key.owner.table, mem_tableNames.2 hkept.1.registered, hkept, rfl⟩

/-- No key is kept twice in a schema. -/
theorem Schema.keptKeys_nodup (h : schema ∈ (Catalog.build rows).schemas) :
    (schema.keptKeys rows).Nodup := by
  -- They are one of the pieces that make up the kept keys of the catalog.
  have hsublist : (schema.keptKeys rows).Sublist (SchemaDiagram.keptKeys rows) := by
    rw [← build_keptKeys, List.flatMap_def]
    exact List.sublist_flatten_of_mem (List.mem_map_of_mem h)
  exact (SchemaDiagram.keptKeys_nodup rows).sublist hsublist

/-- **Keys with lines:** the kept keys of a schema that have columns. -/
def Schema.linedKeys (rows : List Row) (schema : Schema) : List KeyRef :=
  (schema.keptKeys rows).filter fun key => !(key.sources rows).isEmpty

/-- The keys with lines are the kept keys of the schema that have a row for a column. -/
theorem Schema.mem_linedKeys (h : schema ∈ (Catalog.build rows).schemas) {key : KeyRef} :
    key ∈ schema.linedKeys rows ↔
      key.Kept rows ∧ key.owner.schema = schema.name ∧ key.sources rows ≠ [] := by
  rw [linedKeys, List.mem_filter, mem_keptKeys h, and_assoc, Bool.not_eq_true',
    List.isEmpty_eq_false_iff]

/-- No key with lines is listed twice, so that their number is the length of the list. -/
theorem Schema.linedKeys_nodup (h : schema ∈ (Catalog.build rows).schemas) :
    (schema.linedKeys rows).Nodup :=
  (keptKeys_nodup h).filter _

/-- All kept keys have lines just in case all of them have columns. -/
theorem Schema.length_linedKeys_eq_iff :
    (schema.linedKeys rows).length = (schema.keptKeys rows).length ↔
      ∀ key ∈ schema.keptKeys rows, key.sources rows ≠ [] := by
  rw [linedKeys, List.length_filter_eq_length_iff]
  simp only [Bool.not_eq_true', List.isEmpty_eq_false_iff]

/-- Where every table has a name, a kept key has columns: they name its target. -/
theorem KeyRef.Kept.sources_ne_nil {key : KeyRef} (h : key.Kept rows)
    (hnamed : ¬Registered rows ⟨"", ""⟩) : key.sources rows ≠ [] := by
  intro hnone
  have htarget := h.2
  rw [KeyRef.target_of_sources_eq_nil hnone] at htarget
  exact hnamed htarget

/-! ### The keys of a document -/

variable {policy : PrecisionPolicy} {document : Document}

/-- The names that are drawn of a built schema are those of its keys. -/
theorem builtSchema_keyNames (rows : List Row) (name : String) :
    (builtSchema rows name).tables.flatMap Table.keyNames =
      ((builtSchema rows name).keptKeys rows).map KeyRef.name := by
  rw [builtSchema_tables, List.flatMap_map, Schema.keptKeys, builtSchema_tableNames,
    List.map_flatMap]
  -- A table draws a relation for each of its keys, named after it.
  refine List.flatMap_congr fun table _ => ?_
  rw [Table.keyNames, builtTable_manyToOne, List.map_map]
  rfl

/-- **Names in a document:** those of the kept keys of its schema. -/
theorem mem_document_keys (hschema : schema ∈ (Catalog.build rows).schemas)
    (hdocument : (schema.document policy).1 = .ok document) {name : String} :
    name ∈ document.keys.names ↔ name ∈ (schema.keptKeys rows).map KeyRef.name := by
  obtain ⟨s, -, rfl⟩ := mem_build_schemas.1 hschema
  obtain ⟨rfl, -⟩ := Schema.document_of_ok hdocument
  rw [Schema.mem_drawing_keys, builtSchema_keyNames]

/-- **The number of keys** that a document reports is that of the names. -/
theorem document_keys_size (hschema : schema ∈ (Catalog.build rows).schemas)
    (hdocument : (schema.document policy).1 = .ok document) :
    document.keys.size = ((schema.keptKeys rows).map KeyRef.name).eraseDups.length := by
  have hperm : document.keys.names.Perm ((schema.keptKeys rows).map KeyRef.name).eraseDups := by
    -- Neither list has repetitions, so it is enough that they have the same members.
    refine (List.perm_ext_iff_of_nodup document.keys.nodup (nodup_eraseDups _)).2 fun name => ?_
    rw [List.mem_eraseDups, mem_document_keys hschema hdocument]
  exact hperm.length_eq

/-- **Reported keys.** The number of keys that a document reports is the number of different names
of the kept keys. If the names differ, it is the number of keys with lines just in case all kept
keys have columns. They do have them where all tables have names, and there it is never too high,
and right just in case the names differ. -/
theorem reported_key_count (rows : List Row) (schema : Schema) (policy : PrecisionPolicy)
    (document : Document) (hschema : schema ∈ (Catalog.build rows).schemas)
    (hdocument : (schema.document policy).1 = .ok document) :
    ((∀ key, key ∈ schema.linedKeys rows ↔
        key.Kept rows ∧ key.owner.schema = schema.name ∧ key.sources rows ≠ []) ∧
      (schema.linedKeys rows).Nodup) ∧
    (∀ name, name ∈ document.keys.names ↔
      ∃ key : KeyRef, (key.Kept rows ∧ key.owner.schema = schema.name) ∧ key.name = name) ∧
    document.keys.size = ((schema.keptKeys rows).map KeyRef.name).eraseDups.length ∧
    (((schema.keptKeys rows).map KeyRef.name).Nodup →
      (document.keys.size = (schema.linedKeys rows).length ↔
        ∀ key ∈ schema.keptKeys rows, key.sources rows ≠ [])) ∧
    (¬Registered rows ⟨"", ""⟩ →
      document.keys.size ≤ (schema.linedKeys rows).length ∧
      (document.keys.size = (schema.linedKeys rows).length ↔
        ((schema.linedKeys rows).map KeyRef.name).Nodup)) := by
  have hsize := document_keys_size hschema hdocument
  refine ⟨⟨fun key => Schema.mem_linedKeys hschema, Schema.linedKeys_nodup hschema⟩,
    fun name => ?_, hsize, fun hnames => ?_, fun hnamed => ?_⟩
  · rw [mem_document_keys hschema hdocument, List.mem_map]
    simp only [Schema.mem_keptKeys hschema]
  · rw [hsize, eraseDups_of_nodup hnames, List.length_map, ← Schema.length_linedKeys_eq_iff,
      eq_comm]
  · -- All kept keys have lines here, so only names that occur twice make a difference.
    have hlined : schema.linedKeys rows = schema.keptKeys rows := by
      refine List.filter_eq_self.2 fun key hkey => ?_
      have hsources := ((Schema.mem_keptKeys hschema).1 hkey).1.sources_ne_nil hnamed
      rw [List.isEmpty_eq_false_iff.2 hsources]
      rfl
    rw [hlined, hsize]
    constructor
    · -- Leaving out repeated names cannot make the list longer.
      calc ((schema.keptKeys rows).map KeyRef.name).eraseDups.length
          ≤ ((schema.keptKeys rows).map KeyRef.name).length := (eraseDups_sublist _).length_le
        _ = (schema.keptKeys rows).length := List.length_map _
    · -- It keeps the length just in case no name is repeated.
      rw [← length_eraseDups_eq_iff, List.length_map]

/-- Invoices and orders, each with a key onto the customers. -/
def saleRows (invoiceKey orderKey : String) : List Row :=
  [.foreignKey ⟨"public", "invoices", invoiceKey, "public", "customers", "customer", 1⟩,
    .foreignKey ⟨"public", "orders", orderKey, "public", "customers", "customer", 1⟩,
    .indexEntry ⟨"public", "invoices", invoiceKey, 1, .column "id"⟩,
    .indexEntry ⟨"public", "orders", orderKey, 1, .column "id"⟩,
    .table "public" "customers"]

section Sales

variable (invoiceKey orderKey : String)

/-- Each key has a row of its column and one of its index. -/
theorem rowsIn_saleRows :
    KeyRef.rowsIn (saleRows invoiceKey orderKey) ⟨⟨"public", "invoices"⟩, invoiceKey⟩ =
      [.foreignKey ⟨"public", "invoices", invoiceKey, "public", "customers", "customer", 1⟩,
        .indexEntry ⟨"public", "invoices", invoiceKey, 1, .column "id"⟩] ∧
    KeyRef.rowsIn (saleRows invoiceKey orderKey) ⟨⟨"public", "orders"⟩, orderKey⟩ =
      [.foreignKey ⟨"public", "orders", orderKey, "public", "customers", "customer", 1⟩,
        .indexEntry ⟨"public", "orders", orderKey, 1, .column "id"⟩] := by
  simp [KeyRef.rowsIn, saleRows, Row.key?, Row.owner?, Row.keyName?, Row.tableName?,
    Row.schemaName]

/-- Both keys are kept, and no others. -/
theorem kept_saleRows {key : KeyRef} : key.Kept (saleRows invoiceKey orderKey) ↔
    key = ⟨⟨"public", "invoices"⟩, invoiceKey⟩ ∨ key = ⟨⟨"public", "orders"⟩, orderKey⟩ := by
  constructor
  · rintro ⟨⟨row, hrow, hkey⟩, -⟩
    simp only [saleRows, List.mem_cons, List.not_mem_nil, or_false] at hrow
    rcases hrow with rfl | rfl | rfl | rfl | rfl
    · exact .inl (Option.some.inj hkey).symm
    · exact .inr (Option.some.inj hkey).symm
    · exact .inl (Option.some.inj hkey).symm
    · exact .inr (Option.some.inj hkey).symm
    · cases hkey
  · -- The target of either key is that of its only source.
    have hcustomers : Registered (saleRows invoiceKey orderKey) ⟨"public", "customers"⟩ :=
      ⟨.table "public" "customers", by simp [saleRows], rfl⟩
    obtain ⟨hinvoices, horders⟩ := rowsIn_saleRows invoiceKey orderKey
    rintro (rfl | rfl)
    · refine ⟨⟨_, List.mem_cons_self, rfl⟩, ?_⟩
      rw [KeyRef.target, hinvoices]
      exact hcustomers
    · refine ⟨⟨_, List.mem_cons_of_mem _ List.mem_cons_self, rfl⟩, ?_⟩
      rw [KeyRef.target, horders]
      exact hcustomers

/-- The schema of the sale rows is built, as one of them mentions it. -/
theorem saleSchema_mem : builtSchema (saleRows invoiceKey orderKey) "public" ∈
    (Catalog.build (saleRows invoiceKey orderKey)).schemas :=
  mem_build_schemas.2 ⟨"public", ⟨.table "public" "customers", by simp [saleRows], rfl⟩, rfl⟩

/-- The index of either key has a plain column, so the schema is drawn. -/
theorem saleSchema_document : ∃ document,
    ((builtSchema (saleRows invoiceKey orderKey) "public").document .lenient).1 = .ok document := by
  have hdrawable : ∀ key : KeyRef, ¬key.Undrawable (saleRows invoiceKey orderKey) "public" := by
    obtain ⟨hinvoices, horders⟩ := rowsIn_saleRows invoiceKey orderKey
    rintro key ⟨hkept, -, hnone⟩
    rcases (kept_saleRows invoiceKey orderKey).1 hkept with rfl | rfl
    · rw [KeyRef.entries, hinvoices] at hnone
      cases hnone _ List.mem_cons_self
    · rw [KeyRef.entries, horders] at hnone
      cases hnone _ List.mem_cons_self
  obtain ⟨document, hdocument, -⟩ := builtSchema_document_ok hdrawable
  exact ⟨document, hdocument⟩

/-- Both keys have lines. -/
theorem linedKeys_saleRows :
    ((builtSchema (saleRows invoiceKey orderKey) "public").linedKeys
      (saleRows invoiceKey orderKey)).Perm
        [⟨⟨"public", "invoices"⟩, invoiceKey⟩, ⟨⟨"public", "orders"⟩, orderKey⟩] := by
  have hschema := saleSchema_mem invoiceKey orderKey
  obtain ⟨hinvoices, horders⟩ := rowsIn_saleRows invoiceKey orderKey
  refine (List.perm_ext_iff_of_nodup (Schema.linedKeys_nodup hschema) (by simp)).2 fun key => ?_
  rw [Schema.mem_linedKeys hschema, kept_saleRows, List.mem_pair]
  refine and_iff_left_of_imp ?_
  rintro (rfl | rfl)
  · refine ⟨rfl, ?_⟩
    rw [KeyRef.sources, hinvoices]
    exact List.cons_ne_nil _ _
  · refine ⟨rfl, ?_⟩
    rw [KeyRef.sources, horders]
    exact List.cons_ne_nil _ _

end Sales

/-- With names of their own, both keys are reported. -/
theorem reported_key_count_sales : ∃ document,
    ((builtSchema (saleRows "invoice_customer_fk" "order_customer_fk") "public").document
      .lenient).1 = .ok document ∧
    ((builtSchema (saleRows "invoice_customer_fk" "order_customer_fk") "public").linedKeys
      (saleRows "invoice_customer_fk" "order_customer_fk")).length = 2 ∧
    document.keys.size = 2 := by
  have hschema := saleSchema_mem "invoice_customer_fk" "order_customer_fk"
  obtain ⟨document, hdocument⟩ := saleSchema_document "invoice_customer_fk" "order_customer_fk"
  -- The names of the keys with lines differ, which decides the count.
  have hlined := linedKeys_saleRows "invoice_customer_fk" "order_customer_fk"
  have hnames := (hlined.map KeyRef.name).nodup_iff.2 (by decide)
  obtain ⟨-, -, -, -, hcount⟩ := reported_key_count _ _ .lenient document hschema hdocument
  have hsize := (hcount (by decide)).2.2 hnames
  exact ⟨document, hdocument, hlined.length_eq, hsize.trans hlined.length_eq⟩

/-- **Shared names:** two keys of one name have a line each, at two tables, and are reported as one
key. -/
theorem shared_key_name_reported_once : ∃ document,
    builtSchema (saleRows "customer_fk" "customer_fk") "public" ∈
      (Catalog.build (saleRows "customer_fk" "customer_fk")).schemas ∧
    ((builtSchema (saleRows "customer_fk" "customer_fk") "public").document .lenient).1 =
      .ok document ∧
    ((builtSchema (saleRows "customer_fk" "customer_fk") "public").linedKeys
      (saleRows "customer_fk" "customer_fk")).length = 2 ∧
    document.keys.size = 1 := by
  have hschema := saleSchema_mem "customer_fk" "customer_fk"
  obtain ⟨document, hdocument⟩ := saleSchema_document "customer_fk" "customer_fk"
  refine ⟨document, hschema, hdocument, (linedKeys_saleRows _ _).length_eq, ?_⟩
  -- Both keys bring the same name into the set, which takes it once.
  have hnames : document.keys.names.Perm ["customer_fk"] := by
    refine (List.perm_ext_iff_of_nodup document.keys.nodup (by decide)).2 fun name => ?_
    rw [mem_document_keys hschema hdocument, List.mem_map, List.mem_singleton]
    simp only [Schema.mem_keptKeys hschema, kept_saleRows]
    constructor
    · rintro ⟨key, ⟨rfl | rfl, -⟩, rfl⟩
      · rfl
      · rfl
    · rintro rfl
      exact ⟨_, ⟨.inl rfl, rfl⟩, rfl⟩
  exact hnames.length_eq

end SchemaDiagram
