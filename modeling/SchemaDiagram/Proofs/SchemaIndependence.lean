import SchemaDiagram.Proofs.Narrowing

/-!
# Schemas do not interfere

Loading further schemas next to a schema adds relations that lead into them or come from them,
and nothing else. The rows of a schema (`ownRows`) narrow all rows to the tables of the schema,
so what they build is what all rows build, less the relations that have a key or a table outside
the schema. These are the relations that name a target schema (`selectsByKeys_inside`), and
leaving them out gives the inside of the schema (`Schema.inside`).

A many-to-many relation joins two inner keys and names no target schema, so no other schema
brings one or takes one away.
-/

namespace SchemaDiagram

/-! ### The inside of a schema -/

/-- A table without its relations into other schemas. -/
def Table.inside (table : Table) : Table :=
  { table with relations := table.relations.filter (·.targetSchema.isNone) }

/-- **The inside of a schema:** its tables without their relations into other schemas. -/
def Schema.inside (schema : Schema) : Schema :=
  { schema with tables := schema.tables.map Table.inside }

/-- **Own rows** of a schema. -/
def ownRows (rows : List Row) (name : String) : List Row :=
  rows.filter fun row => decide (row.schemaName = name)

/-- The table belongs to the schema. -/
def TableRef.isIn (name : String) (ref : TableRef) : Bool := decide (ref.schema = name)

variable {rows : List Row} {name : String}

/-! ### Own rows -/

theorem sameTableRows_ownRows (rows : List Row) (name : String) :
    SameTableRows (TableRef.isIn name) rows (ownRows rows name) := by
  rw [SameTableRows, ownRows, List.filter_filter]
  -- A row of a table of the schema is an own row, and an own row has no other table.
  refine List.filter_congr fun row _ => ?_
  cases howner : row.owner? with
  | none => rfl
  | some ref =>
    have hschema := (Row.owner?_eq_some.1 howner).1
    rw [Option.isSome_some, Bool.true_and, Option.any_some, TableRef.isIn, hschema]

theorem schemaNames_ownRows (h : ∃ row ∈ rows, row.schemaName = name) :
    schemaNames (ownRows rows name) = [name] := by
  -- Both lists are in order, so it is enough that they have the same entries.
  refine eq_of_pairwise_of_mem_iff (fun _ _ h h' => Nat.lt_asymm h h') (schemaNames_pairwise _)
    (List.pairwise_singleton _ _) fun other => ?_
  rw [mem_schemaNames, List.mem_singleton]
  constructor
  · rintro ⟨row, hrow, rfl⟩
    exact of_decide_eq_true (List.mem_filter.1 hrow).2
  · rintro rfl
    obtain ⟨row, hrow, hschema⟩ := h
    exact ⟨row, List.mem_filter.2 ⟨hrow, decide_eq_true hschema⟩, hschema⟩

theorem schemaNames_filter (h : ∃ row ∈ rows, row.schemaName = name) :
    (schemaNames rows).filter (fun other => decide (other = name)) = [name] := by
  -- As above, both lists are in order.
  refine eq_of_pairwise_of_mem_iff (fun _ _ h h' => Nat.lt_asymm h h')
    ((schemaNames_pairwise rows).filter _) (List.pairwise_singleton _ _) fun other => ?_
  rw [List.mem_filter, mem_schemaNames, decide_eq_true_iff, List.mem_singleton]
  constructor
  · exact And.right
  · rintro rfl
    exact ⟨h, rfl⟩

/-- **Own rows narrow the rows** to the tables of the schema. -/
theorem narrows_ownRows (h : ∃ row ∈ rows, row.schemaName = name) :
    Narrows (TableRef.isIn name) rows (ownRows rows name) := by
  refine (sameTableRows_ownRows rows name).narrows (fun other => decide (other = name))
    (fun ref href => href) ?_
  rw [schemaNames_filter h, schemaNames_ownRows h]
  simp

/-! ### Relations inside a schema -/

/-- **A relation names a target schema if one of its keys has a table outside.** -/
theorem selectsByKeys_inside (rows : List Row) {ref : TableRef} (href : ref.schema = name) :
    SelectsByKeys (TableRef.isIn name) rows ref (·.targetSchema.isNone) where
  manyToOne key _ howner := by
    subst howner href
    simp only [KeyRef.manyToOne, KeyRef.keptBy, TableRef.isIn]
    -- The schema is named unless it is the one of the owner.
    by_cases h : (key.target rows).schema = key.owner.schema
    · simp [h]
    · simp [h, Ne.symm h]
  oneToMany key _ htarget := by
    subst htarget href
    simp only [KeyRef.oneToMany, KeyRef.keptBy, TableRef.isIn]
    -- Here the other end is the owner of the key.
    by_cases h : key.owner.schema = (key.target rows).schema
    · simp [h]
    · simp [h, Ne.symm h]
  manyToMany near far _ _ howner hjoin hfar htarget := by
    -- No schema is named, and all tables of the two keys are in the schema of the table.
    subst htarget href
    simp [KeyRef.manyToMany, KeyRef.keptBy, TableRef.isIn, howner, hjoin, hfar]

/-- What the own rows build is the inside of the schema. -/
theorem builtSchema_ownRows (h : ∃ row ∈ rows, row.schemaName = name) :
    builtSchema (ownRows rows name) name = (builtSchema rows name).inside := by
  have hnarrows := narrows_ownRows h
  -- All tables of the schema keep their rows, so all of them are registered again.
  have hnames : tableNames (ownRows rows name) name = tableNames rows name := by
    rw [hnarrows.tableRows.tableNames_eq]
    exact List.filter_eq_self.2 fun table _ => decide_eq_true rfl
  rw [builtSchema, hnames, Schema.inside, builtSchema_tables, List.map_map]
  -- Table by table: the same columns, and the relations that stay in the schema.
  congr 1
  refine List.map_congr_left fun table _ => ?_
  have hin : TableRef.isIn name ⟨name, table⟩ := decide_eq_true rfl
  have hselects : SelectsByKeys (TableRef.isIn name) rows ⟨name, table⟩
    (·.targetSchema.isNone) := selectsByKeys_inside rows rfl
  -- The relations of the table are those whose keys stay in the schema.
  have hrelations := hnarrows.builtTable_relations_eq hselects
  rw [Function.comp_apply, Table.inside, ← hrelations]
  change (⟨table, columnsOf (rowsOf (ownRows rows name) _), _⟩ : Table) =
    ⟨table, columnsOf (rowsOf rows _), _⟩
  rw [hnarrows.tableRows.rowsOf_of_keep hin]
  rfl

/-- A many-to-many relation of a built table names no target schema. -/
theorem RelationAt.stays_of_manyToMany {ref : TableRef} {relation : Relation}
    (h : RelationAt rows ref relation) (hkind : relation.kind = .manyToMany) :
    relation.targetSchema = none := by
  cases h with
  | manyToOne => nomatch hkind
  | oneToMany => nomatch hkind
  | manyToMany => rfl

/-- **Schemas do not interfere.** A schema of a built catalog, without its relations into other
schemas, is the one schema that its own rows build: same tables, columns and key flags, and the
same relations inside the schema, all in the same order. A relation that is left out names a
target schema; no many-to-many relation does. -/
theorem schemas_do_not_interfere (rows : List Row) (name : String)
    (hname : ∃ row ∈ rows, row.schemaName = name) :
    ∃ schema, (Catalog.build rows).schema? name = some schema ∧
      Catalog.build (ownRows rows name) = ⟨[schema.inside]⟩ ∧
      ∀ table ∈ schema.tables, ∀ relation ∈ table.relations, relation.kind = .manyToMany →
        relation ∈ table.inside.relations := by
  refine ⟨builtSchema rows name, build_schema? hname, ?_, ?_⟩
  · have hschemas : (Catalog.build (ownRows rows name)).schemas =
        [(builtSchema rows name).inside] := by
      rw [build_schemas, schemaNames_ownRows hname, List.map_singleton, builtSchema_ownRows hname]
    exact congrArg Catalog.mk hschemas
  · intro table htable relation hrelation hkind
    obtain ⟨t, -, rfl⟩ := mem_builtSchema_tables.1 htable
    -- The relation is not left out, since it names no schema.
    have hstays := (relationAt_of_mem hrelation).stays_of_manyToMany hkind
    exact List.mem_filter.2 ⟨hrelation, Option.isNone_iff_eq_none.2 hstays⟩

/-- The join table between users and groups with the events in another schema loaded, too. -/
def auditedRows : List Row := .table "audit" "events" :: membershipRows

/-- The key onto the events is kept, and the schema without it is what its own rows build. -/
theorem schemas_do_not_interfere_audited :
    (∃ row ∈ auditedRows, row.schemaName = "public") ∧
    KeyRef.Kept auditedRows ⟨⟨"public", "memberships"⟩, "audit_key"⟩ ∧
    ∃ schema, (Catalog.build auditedRows).schema? "public" = some schema ∧
      Catalog.build (ownRows auditedRows "public") = ⟨[schema.inside]⟩ := by
  have hpublic : ∃ row ∈ auditedRows, row.schemaName = "public" :=
    -- The table of the users announces the schema.
    ⟨.table "public" "users", by simp [auditedRows, membershipRows], rfl⟩
  obtain ⟨schema, hschema, hinside, -⟩ := schemas_do_not_interfere auditedRows "public" hpublic
  exact ⟨hpublic, by decide, schema, hschema, hinside⟩

end SchemaDiagram
