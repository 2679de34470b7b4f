import Mathlib.Data.List.Flatten
import Mathlib.Data.List.Forall2
import SchemaDiagram.Proofs.Defects
import SchemaDiagram.Proofs.FilteredSchemas
import SchemaDiagram.Proofs.Sessions

/-!
# Documents of filtered schemas

A document is made of what is drawn of each table (`Document.MadeOf`), and a table is drawn without
regard to the others. So a filter takes parts out of a document and changes nothing else: the tables
that stay have the blocks that they had before, and the lines of those relations that stay
(`TableFilter.Draws`).

Whatever is collected table by table becomes less when tables and relations are dropped
(`TableFilter.flatMap_apply_sublist`). That holds of the defects of a schema, so a filter never
brings an error about, and of the keys drawn and the warnings.
-/

namespace SchemaDiagram

/-- A document records the names of all keys that it draws. -/
theorem Schema.mem_drawing_keys {schema : Schema} {name : String} :
    name ∈ schema.drawing.keys.names ↔ name ∈ schema.tables.flatMap Table.keyNames := by
  rw [drawing, RenderedKeys.mem_insertAll]
  exact or_iff_right List.not_mem_nil

/-! ### What a filter leaves of a document -/

namespace TableFilter

variable {f : TableFilter} {schema : Schema}

/-- The many-to-one relations that are left are those that stay. -/
theorem trim_manyToOne (f : TableFilter) (schema : Schema) (table : Table) :
    (f.trim schema table).manyToOne = table.manyToOne.filter (f.retains schema) := by
  rw [Table.manyToOne, Table.manyToOne, trim, List.filter_comm]

/-- **What is drawn of a table that stays.** Its block is the one that it had before, and its lines
are those of the relations that stay, in their order. -/
structure Draws (f : TableFilter) (schema : Schema) (whole kept : Table) : Prop where
  relations : kept.relations = whole.relations.filter (f.retains schema)
  block : kept.drawing.block = whole.drawing.block
  lines : kept.relationLines =
    (whole.manyToOne.filter (f.retains schema)).flatMap Relation.drawnLines
  sublist : kept.relationLines.Sublist whole.relationLines

/-- What is left of a table is drawn as the filter draws it. -/
theorem draws_trim (f : TableFilter) (schema : Schema) (table : Table) :
    f.Draws schema table (f.trim schema table) where
  relations := rfl
  block := rfl
  lines := by rw [Table.relationLines, trim_manyToOne]
  sublist := by
    rw [Table.relationLines, Table.relationLines, trim_manyToOne]
    exact List.filter_sublist.flatMap _

/-- The tables of the filtered schema, one by one, are what is left of the selected tables. -/
theorem draws_apply (f : TableFilter) (schema : Schema) :
    List.Forall₂ (f.Draws schema) (schema.tables.filter fun table => f.selects table.name)
      (f.apply schema).tables := by
  rw [apply_eq, List.forall₂_map_right_iff, List.forall₂_same]
  exact fun table _ => f.draws_trim schema table

/-- **Collecting table by table.** If every table yields less after its relations are filtered, so
does the schema. -/
theorem flatMap_apply_sublist {β : Type} {collect : Table → List β}
    (h : ∀ table, (collect (f.trim schema table)).Sublist (collect table)) :
    ((f.apply schema).tables.flatMap collect).Sublist (schema.tables.flatMap collect) := by
  rw [apply_eq, List.flatMap_map]
  -- First the relations are dropped from the tables that stay, then the other tables.
  exact (List.Sublist.flatMap_right _ fun table _ => h table).trans
    (List.filter_sublist.flatMap collect)

/-- A filter brings about no defect: each one that is left was there before, in the same order. -/
theorem defects_apply_sublist (policy : PrecisionPolicy) :
    ((f.apply schema).defects policy).Sublist (schema.defects policy) := by
  refine flatMap_apply_sublist fun table => ?_
  -- The columns of a table are left alone, so only the defects of relations become fewer.
  rw [Table.defects, Table.defects, trim_manyToOne]
  exact (List.filter_sublist.flatMap _).append_left _

/-- The keys that are drawn after filtering were drawn before. -/
theorem keyNames_apply_sublist :
    ((f.apply schema).tables.flatMap Table.keyNames).Sublist
      (schema.tables.flatMap Table.keyNames) := by
  refine flatMap_apply_sublist fun table => ?_
  rw [Table.keyNames, Table.keyNames, trim_manyToOne]
  exact List.filter_sublist.map _

/-- The warnings after filtering were given before, in the same order. -/
theorem precisionWarnings_apply_sublist :
    (f.apply schema).precisionWarnings.Sublist schema.precisionWarnings :=
  flatMap_apply_sublist fun _ => .refl _

end TableFilter

/-- **The document of a filtered schema** is drawn if that of the whole schema is, under the same
policy, and it is a part of that one. Its blocks are those of the selected tables, unchanged and in
the same order; the relation lines of each of them are those of the relations that stay, in the same
order; its keys are among those of the whole document, and its warnings follow each other as they
do there. -/
theorem filtered_document_is_part (f : TableFilter) (schema : Schema) (policy : PrecisionPolicy)
    (document : Document) (h : (schema.document policy).1 = .ok document) :
    ∃ filtered, ((f.apply schema).document policy).1 = .ok filtered ∧
      document.MadeOf policy schema.tables ∧
      filtered.MadeOf policy (f.apply schema).tables ∧
      List.Forall₂ (f.Draws schema) (schema.tables.filter fun table => f.selects table.name)
        (f.apply schema).tables ∧
      filtered.keys.names ⊆ document.keys.names ∧
      ((f.apply schema).document policy).2.Sublist (schema.document policy).2 := by
  have hdefects := Schema.defects_eq_nil_of_ok h
  -- The filtered schema has some of the defects of the whole one, which has none.
  have hfiltered : (f.apply schema).defects policy = [] :=
    List.sublist_nil.1 (hdefects ▸ f.defects_apply_sublist policy)
  obtain ⟨rfl, hdocument⟩ := Schema.document_of_ok h
  rw [hdocument, Schema.document_of_defects_eq_nil hfiltered]
  refine ⟨_, rfl, Schema.drawing_madeOf hdefects, Schema.drawing_madeOf hfiltered,
    f.draws_apply schema, fun name hname => ?_, TableFilter.precisionWarnings_apply_sublist⟩
  -- Names are recorded once, so the order may change and only the set becomes smaller.
  have hkey := TableFilter.keyNames_apply_sublist.subset (Schema.mem_drawing_keys.1 hname)
  exact Schema.mem_drawing_keys.2 hkey

/-- Without the archive, the club is drawn with three blocks and the lines of the memberships. -/
theorem filtered_document_is_part_club :
    (∃ document, (clubSchema.document .strict).1 = .ok document) ∧
    ∃ filtered, ((withoutArchive.apply clubSchema).document .strict).1 = .ok filtered ∧
      filtered.MadeOf .strict (withoutArchive.apply clubSchema).tables ∧
      (withoutArchive.apply clubSchema).tables.map Table.relationLines =
        [[], ["memberships.user_id > users.id"], []] := by
  have hdefects : clubSchema.defects .strict = [] := by decide
  have hdocument := congrArg Prod.fst (Schema.document_of_defects_eq_nil hdefects)
  obtain ⟨filtered, hfiltered, -, hmade, -⟩ :=
    filtered_document_is_part withoutArchive clubSchema .strict _ hdocument
  exact ⟨⟨_, hdocument⟩, filtered, hfiltered, hmade, by decide⟩

end SchemaDiagram
