import Mathlib.Data.List.Forall2
import SchemaDiagram.Proofs.AssembledCatalog
import SchemaDiagram.Proofs.BuiltValidity

/-!
# The structure of a built catalog

Which schemas, tables and columns a built catalog has, and in which order.

* `SortedByOrdinal`: the same column rows in the order of their ordinals, where rows of equal
  ordinal keep their order;
* `ColumnRow.Gives`: a column has what its row says, and belongs to the primary key if any row says
  so;
* `Catalog.outline`: a catalog without its relations. It does not depend on where the keys lead
  (`outline_build_retarget`);
* `built_catalog_structure`: all this holds of the catalog that a builder builds from any rows.
-/

namespace SchemaDiagram

/-! ### Columns -/

/-- **Sorted by ordinal.** The rows of a list in the order of their ordinals, none lost and none
twice, where rows of equal ordinal keep their order. -/
structure SortedByOrdinal (given sorted : List ColumnRow) : Prop where
  perm : sorted.Perm given
  ordered : sorted.Pairwise fun a b => a.ordinal ≤ b.ordinal
  ties : ∀ ordinal, sorted.filter (fun row => decide (row.ordinal = ordinal)) =
    given.filter fun row => decide (row.ordinal = ordinal)

/-- Sorting by ordinals gives the rows in that order, and is stable. -/
theorem sortedByOrdinal_mergeSort (given : List ColumnRow) :
    SortedByOrdinal given (given.mergeSort fun a b => decide (a.ordinal ≤ b.ordinal)) where
  perm := List.mergeSort_perm _ _
  ordered := sorted_pairwise_le ColumnRow.ordinal given
  ties := sorted_filter_position ColumnRow.ordinal given

/-- **What a column row gives:** a column with what the row says of it, which belongs to the primary
key if any of the rows says so. -/
structure ColumnRow.Gives (rows : List Row) (row : ColumnRow) (column : Column) : Prop where
  name : column.name = row.name
  type : column.type = row.type
  notNull : column.notNull = row.notNull
  precision : column.precision = row.precision
  primaryKey : column.primaryKey ↔ Row.primaryKey row.schema row.table row.name ∈ rows

/-- The primary key of a table, by the rows that name its columns. -/
theorem mem_primaryKeyColumns {rows : List Row} {ref : TableRef} {name : String} :
    name ∈ (rowsOf rows ref).filterMap Row.primaryKeyColumn? ↔
      Row.primaryKey ref.schema ref.table name ∈ rows := by
  simp only [rowsOf, List.mem_filterMap, List.mem_filter, decide_eq_true_eq]
  -- Only the rows of primary keys name such a column, and each names one.
  constructor
  · rintro ⟨row, ⟨hrow, howner⟩, hname⟩
    cases row with
    | primaryKey schema table column =>
      obtain rfl := Option.some.inj hname
      obtain rfl := Option.some.inj howner
      exact hrow
    | schema | table | column | foreignKey | indexEntry => cases hname
  · intro h
    exact ⟨_, ⟨h, rfl⟩, rfl⟩

/-- **Columns of a built table:** one for each of its column rows, in the order of ordinals. -/
theorem builtTable_columns_forall₂ (rows : List Row) (ref : TableRef) :
    List.Forall₂ (ColumnRow.Gives rows)
      ((columnRows rows ref).mergeSort fun a b => decide (a.ordinal ≤ b.ordinal))
      (builtTable rows ref).columns := by
  rw [builtTable_columns, columnsOf]
  refine List.forall₂_map_right_iff.2 (List.forall₂_same.2 fun row hrow => ?_)
  refine ⟨rfl, rfl, rfl, rfl, ?_⟩
  -- The flag asks for the column in the primary key of the table that the row is of.
  have howner := (mem_columnRows.1 ((List.mergeSort_perm _ _).mem_iff.1 hrow)).2
  obtain rfl : TableRef.mk row.schema row.table = ref := Option.some.inj howner
  rw [decide_eq_true_iff]
  exact mem_primaryKeyColumns

/-! ### Targets of keys -/

/-- The catalog without its relations. -/
def Catalog.outline (catalog : Catalog) : Catalog :=
  { schemas := catalog.schemas.map fun schema =>
      { schema with tables := schema.tables.map fun table => { table with relations := [] } } }

/-- The outline of a built catalog is the catalog with its relations left out. -/
theorem outline_build (rows : List Row) :
    (Catalog.build rows).outline = bareCatalog rows fun _ => [] := by
  rw [Catalog.outline, build_schemas, bareCatalog, List.map_map]
  refine congrArg Catalog.mk (List.map_congr_left fun schema _ => ?_)
  rw [Function.comp_apply, builtSchema, List.map_map]
  rfl

/-- The row with another target, if it is a row of a foreign key. -/
def Row.retarget (target : ForeignKeyRow → TableRef) : Row → Row
  | foreignKey row =>
    foreignKey { row with targetSchema := (target row).schema, targetTable := (target row).table }
  | row => row

section Retarget

variable (target : ForeignKeyRow → TableRef)

/-- A row with another target is still of its schema. -/
theorem Row.schemaName_retarget (row : Row) :
    (row.retarget target).schemaName = row.schemaName := by
  cases row <;> rfl

/-- It names the same table. -/
theorem Row.tableName?_retarget (row : Row) :
    (row.retarget target).tableName? = row.tableName? := by
  cases row <;> rfl

/-- It has the same owner. -/
theorem Row.owner?_retarget (row : Row) : (row.retarget target).owner? = row.owner? := by
  cases row <;> rfl

/-- A row with another target gives the same column, if any. -/
theorem Row.column?_retarget (row : Row) : (row.retarget target).column? = row.column? := by
  cases row <;> rfl

/-- It names the same column of a primary key, if any. -/
theorem Row.primaryKeyColumn?_retarget (row : Row) :
    (row.retarget target).primaryKeyColumn? = row.primaryKeyColumn? := by
  cases row <;> rfl

/-- **Targets leave no trace in the outline:** a key alone creates neither a schema nor a table. -/
theorem outline_build_retarget (rows : List Row) :
    (Catalog.build (rows.map (Row.retarget target))).outline = (Catalog.build rows).outline := by
  -- The names of schemas and tables are read off what a retargeted row has kept, and so are the
  -- columns.
  have hschemas : schemaNames (rows.map (Row.retarget target)) = schemaNames rows := by
    rw [schemaNames, schemaNames, List.map_map]
    exact congrArg List.eraseDups (List.map_congr_left fun row _ => row.schemaName_retarget target)
  have htables : ∀ schema, tableNames (rows.map (Row.retarget target)) schema =
      tableNames rows schema := by
    intro schema
    rw [tableNames, tableNames, List.filter_map, List.filterMap_map]
    simp only [Function.comp_def, Row.schemaName_retarget, Row.tableName?_retarget]
  have hcolumns : ∀ ref, columnsOf (rowsOf (rows.map (Row.retarget target)) ref) =
      columnsOf (rowsOf rows ref) := by
    intro ref
    rw [rowsOf, rowsOf, List.filter_map, columnsOf, columnsOf, List.filterMap_map,
      List.filterMap_map]
    simp only [Function.comp_def, Row.owner?_retarget, Row.column?_retarget,
      Row.primaryKeyColumn?_retarget]
  -- The outline of a catalog is made of these names and columns, and of nothing else.
  rw [outline_build, outline_build, bareCatalog, bareCatalog, hschemas]
  simp only [htables, hcolumns]

end Retarget

/-! ### The catalog -/

/-- **Structure of a built catalog.** Taking the rows one after the other gives the catalog of all
of them, whatever rows come in whatever order. It has the schemas that the rows mention, each once
and in the order of first mention, in each schema the tables that own a row, each once and by name,
and in each table a column for each column row, sorted by ordinal. Where the keys lead makes no
difference to schemas, tables and columns. -/
theorem built_catalog_structure (rows : List Row) :
    ((Builder.ofRows rows).build = Catalog.build rows ∧
      (Builder.ofRows rows).warnings = buildWarnings rows) ∧
    (((Catalog.build rows).schemas.map Schema.name).Pairwise
        (fun a b => firstMention rows a < firstMention rows b) ∧
      ∀ name, name ∈ (Catalog.build rows).schemas.map Schema.name ↔
        ∃ row ∈ rows, row.schemaName = name) ∧
    (∀ schema ∈ (Catalog.build rows).schemas,
      schema.tableNames.Pairwise (· < ·) ∧
      (∀ table, table ∈ schema.tableNames ↔ Registered rows ⟨schema.name, table⟩) ∧
      ∀ table ∈ schema.tables, ∃ sorted,
        SortedByOrdinal (columnRows rows ⟨schema.name, table.name⟩) sorted ∧
        List.Forall₂ (ColumnRow.Gives rows) sorted table.columns) ∧
    ∀ target, (Catalog.build (rows.map (Row.retarget target))).outline =
      (Catalog.build rows).outline := by
  -- A built schema has the name that it was built under.
  have hnames : (Catalog.build rows).schemas.map Schema.name = schemaNames rows := by
    rw [build_schemas, List.map_map]
    exact List.map_id' _
  refine ⟨⟨Builder.build_ofRows rows, Builder.warnings_ofRows rows⟩, ⟨?_, fun name => ?_⟩,
    fun schema hschema => ?_, fun target => outline_build_retarget target rows⟩
  · rw [hnames]
    exact schemaNames_pairwise rows
  · rw [hnames]
    exact mem_schemaNames
  · obtain ⟨name, -, rfl⟩ := mem_build_schemas.1 hschema
    rw [builtSchema_tableNames]
    refine ⟨tableNames_pairwise rows name, fun table => mem_tableNames, fun table htable => ?_⟩
    obtain ⟨t, -, rfl⟩ := mem_builtSchema_tables.1 htable
    exact ⟨_, sortedByOrdinal_mergeSort _, builtTable_columns_forall₂ rows ⟨name, t⟩⟩

/-- The orders by number. -/
def numberRow : ColumnRow :=
  ⟨"sales", "orders", "number", 1, ⟨"integer", none, false, false⟩, true, none⟩

/-- The customers of the orders. -/
def customerRow : ColumnRow :=
  ⟨"sales", "orders", "customer", 2, ⟨"integer", none, false, false⟩, false, none⟩

/-- Rows of two tables, with a key into a schema that no row has as its own. The columns of the
orders do not come by their ordinals, and their primary key comes first. -/
def orderRows : List Row :=
  [.foreignKey ⟨"sales", "orders", "customer_key", "crm", "customers", "customer", 1⟩,
    .primaryKey "sales" "orders" "number", .column customerRow, .column numberRow,
    .table "sales" "invoices"]

/-- The schema has both tables by name, and the orders have their columns by ordinal. The schema of
the customers is not there. -/
theorem built_catalog_structure_orders :
    (Builder.ofRows orderRows).build.schemas.map Schema.name = ["sales"] ∧
    ∃ schema ∈ (Catalog.build orderRows).schemas, schema.tableNames = ["invoices", "orders"] ∧
      ∃ table ∈ schema.tables, table.name = "orders" ∧
        table.columns.map (fun column => (column.name, column.primaryKey)) =
          [("number", true), ("customer", false)] := by
  obtain ⟨⟨hbuilder, -⟩, ⟨hordered, hnames⟩, hschemas, -⟩ := built_catalog_structure orderRows
  have horders : Registered orderRows ⟨"sales", "orders"⟩ := by decide
  have hschema := mem_build_schemas.2 ⟨"sales", horders.mentioned, rfl⟩
  have htable := mem_builtSchema_tables.2 ⟨"orders", horders, rfl⟩
  obtain ⟨htableOrder, htableNames, hcolumns⟩ := hschemas _ hschema
  obtain ⟨sorted, hsorted, hgives⟩ := hcolumns _ htable
  refine ⟨?_, _, hschema, ?_, _, htable, rfl, ?_⟩
  · -- No other schema is mentioned, also not by the target of the key.
    rw [hbuilder]
    refine eq_of_pairwise_of_mem_iff (fun a b => Nat.lt_asymm) hordered
      (List.pairwise_singleton _ _) fun name => (hnames name).trans ?_
    simp [orderRows, Row.schemaName, customerRow, numberRow, eq_comm]
  · -- Both tables own a row, and the names are in order.
    refine eq_of_pairwise_of_mem_iff string_lt_asymm htableOrder (by decide)
      fun table => (htableNames table).trans ?_
    simp [Registered, orderRows, Row.owner?_eq_some, Row.schemaName, Row.tableName?, customerRow,
      numberRow, or_comm, eq_comm]
    exact .inr
  · -- The ordinals differ, so there is only one order.
    have hrows : sorted = [numberRow, customerRow] := by
      have hperm : sorted.Perm [numberRow, customerRow] :=
        hsorted.perm.trans (List.Perm.swap numberRow customerRow [])
      have hne : sorted.Pairwise fun a b => a.ordinal ≠ b.ordinal :=
        List.pairwise_map.1 ((hperm.map ColumnRow.ordinal).nodup_iff.2 (by decide))
      have hstrict : sorted.Pairwise fun a b => a.ordinal < b.ordinal :=
        hsorted.ordered.imp₂ (fun _ _ hle hne => Int32.lt_of_le_of_ne hle hne) hne
      exact eq_of_pairwise_of_mem_iff (fun a b => Int32.lt_asymm) hstrict
        (List.pairwise_pair.2 (by decide)) fun row => hperm.mem_iff
    subst hrows
    generalize (builtTable orderRows ⟨"sales", "orders"⟩).columns = columns at hgives ⊢
    obtain _ | ⟨hnumber, _ | ⟨hcustomer, ⟨⟩⟩⟩ := hgives
    have hkey : Row.primaryKey "sales" "orders" "number" ∈ orderRows := by simp [orderRows]
    have hnokey : Row.primaryKey "sales" "orders" "customer" ∉ orderRows := by simp [orderRows]
    rw [List.map_cons, List.map_singleton, hnumber.name, hcustomer.name,
      hnumber.primaryKey.2 hkey, Bool.eq_false_iff.2 fun h => hnokey (hcustomer.primaryKey.1 h)]
    rfl

end SchemaDiagram
