import SchemaDiagram.Proofs.Strictness

/-!
# Defects of a schema

A **defect** keeps a document from being drawn: a many-to-one relation whose key refers to an index
without a plain column, and under the strict policy a column whose precision is missing. The
defects of a schema stand in a list in the order of its document (`Schema.defects`): table by
table, and in each table the columns before the relations.

* `Draw.EndsAt`: a drawing ends with the first of these defects, with a lemma for each way in which
  drawings are made and one for each part of a document;
* `Schema.document_eq_error_iff`: what that comes to for the document of a schema;
* `Schema.document_of_ok`: a document that is drawn is the same under both policies
  (`Schema.drawing`);
* `first_defect_ends_document`: when a document is refused, for which defect, and which warnings
  are given until then.
-/

namespace SchemaDiagram

/-! ### Defects -/

/-- The index to which the key of the relation refers has no plain column. -/
def Relation.defects (relation : Relation) : List DiagramError :=
  if relation.foreignKey.index.all (·.column?.isNone) then
    [.missingJoinColumn relation.foreignKey.name]
  else []

/-- The precision of a column of this table is missing, and the policy refuses that. -/
def Column.defects (policy : PrecisionPolicy) (table : String) (column : Column) :
    List DiagramError :=
  if policy = .strict ∧ column.missesPrecision then [.missingPrecision table column.name] else []

/-- The defects of all columns come before those of the many-to-one relations. -/
def Table.defects (policy : PrecisionPolicy) (table : Table) : List DiagramError :=
  table.columns.flatMap (Column.defects policy table.name) ++
    table.manyToOne.flatMap Relation.defects

/-- **The defects of a schema,** in the order of its document. -/
def Schema.defects (policy : PrecisionPolicy) (schema : Schema) : List DiagramError :=
  schema.tables.flatMap (Table.defects policy)

/-- **Undrawable key.** The key of the relation refers to an index without a plain column. -/
def Relation.LacksJoinColumn (relation : Relation) : Prop :=
  ∀ column, .column column ∉ relation.foreignKey.index

/-- Entry by entry: the index of such a key holds expressions only. -/
theorem Relation.lacksJoinColumn_iff {relation : Relation} :
    relation.LacksJoinColumn ↔ ∀ entry ∈ relation.foreignKey.index, entry.column? = none := by
  constructor
  -- An entry is a column or an expression, and only the first kind could be drawn from.
  · intro h entry hentry
    cases entry with
    | column name => exact absurd hentry (h name)
    | expression text => rfl
  · intro h column hmem
    nomatch h _ hmem

/-- A relation is drawable just in case its key is. -/
theorem Relation.drawable_iff_not_lacks {relation : Relation} :
    relation.Drawable ↔ ¬relation.LacksJoinColumn := by
  rw [lacksJoinColumn_iff, ← not_drawable_iff, Classical.not_not]

/-- A relation without defects is a drawable one. -/
theorem Relation.defects_eq_nil_iff {relation : Relation} :
    relation.defects = [] ↔ relation.Drawable := by
  -- The check of the definition runs over the entries of the index.
  have hall : relation.foreignKey.index.all (·.column?.isNone) ↔ relation.LacksJoinColumn := by
    simp only [lacksJoinColumn_iff, List.all_eq_true, Option.isNone_iff_eq_none]
  rw [drawable_iff_not_lacks, ← hall, defects, ite_singleton_eq_nil]

/-- A relation that cannot be drawn has one defect, which names its key. -/
theorem Relation.defects_of_not_drawable {relation : Relation} (h : ¬relation.Drawable) :
    relation.defects = [.missingJoinColumn relation.foreignKey.name] := by
  rw [← defects_eq_nil_iff, defects] at h
  -- If the check had not found the defect, there would be none.
  rw [defects, if_pos (Classical.not_not.1 fun hall => h (if_neg hall))]

/-- A column has no defect unless the policy is strict and the precision is missing. -/
theorem Column.defects_eq_nil_iff {policy : PrecisionPolicy} {table : String} {column : Column} :
    column.defects policy table = [] ↔ ¬(policy = .strict ∧ column.missesPrecision) :=
  ite_singleton_eq_nil

namespace Table

variable {policy : PrecisionPolicy} {table : Table}

/-- A table without defects: no column is refused, and all many-to-one relations are drawable. -/
theorem defects_eq_nil_iff :
    table.defects policy = [] ↔
      (∀ column ∈ table.columns, ¬(policy = .strict ∧ column.missesPrecision)) ∧
        table.Drawable := by
  simp only [defects, Drawable, List.append_eq_nil_iff, List.flatMap_eq_nil_iff,
    Column.defects_eq_nil_iff, Relation.defects_eq_nil_iff]

/-- A lenient drawing refuses no column. -/
theorem lenient_defects (table : Table) :
    table.defects .lenient = table.manyToOne.flatMap Relation.defects := by
  -- Defects of columns are there under the strict policy only.
  have hcolumns : table.columns.flatMap (Column.defects .lenient table.name) = [] :=
    List.flatMap_eq_nil_iff.2 fun column _ =>
      Column.defects_eq_nil_iff.2 (not_and_of_not_left _ (by decide))
  rw [defects, hcolumns, List.nil_append]

/-- Relations of the other two kinds are not drawn, so only those of many-to-one count. -/
theorem drawable_iff :
    table.Drawable ↔ ∀ relation ∈ table.relations, relation.kind = .manyToOne →
      ¬relation.LacksJoinColumn := by
  simp only [Drawable, manyToOne, List.mem_filter, decide_eq_true_eq, and_imp,
    Relation.drawable_iff_not_lacks]

/-- A table has a defect by a relation under both policies, by a column under the strict one. -/
theorem defects_ne_nil_iff :
    table.defects policy ≠ [] ↔
      (∃ relation ∈ table.relations, relation.kind = .manyToOne ∧ relation.LacksJoinColumn) ∨
        policy = .strict ∧ ∃ column ∈ table.columns, column.missesPrecision := by
  rw [ne_eq, defects_eq_nil_iff, drawable_iff, Classical.not_and_iff_not_or_not, or_comm]
  simp only [Classical.not_forall, Classical.not_not, exists_prop, exists_and_left,
    and_left_comm (b := policy = .strict)]

end Table

/-! ### Where a drawing ends -/

namespace Draw

variable {α β : Type}

/-- **A drawing ends at the first of these defects,** and comes to a value if there is none. -/
def EndsAt (draw : Draw α) (defects : List DiagramError) : Prop :=
  ∀ state e, (draw.runFrom state).1 = .error e ↔ defects.head? = some e

/-- A drawing that comes to a value ends at no defect. -/
theorem EndsAt.of_ok {draw : Draw α} {a : α} {keys : List String} {warnings : List Warning}
    (h : draw.Does ⟨.ok a, keys, warnings⟩) : draw.EndsAt [] := by
  intro state e
  rw [h state]
  exact iff_of_false (fun h => nomatch h) fun h => nomatch h

/-- A drawing that is refused in any case ends at this defect. -/
theorem EndsAt.of_error {draw : Draw α} {e : DiagramError} {keys : List String}
    {warnings : List Warning} (h : draw.Does ⟨.error e, keys, warnings⟩) : draw.EndsAt [e] := by
  intro state e'
  rw [h state, List.head?_cons, Option.some.injEq]
  exact ⟨Except.error.inj, congrArg Except.error⟩

/-- A value that is there already has no defects. -/
theorem EndsAt.pure (a : α) : (Pure.pure a : Draw α).EndsAt [] := .of_ok (does_pure a)

/-- The defects of the first drawing come first. -/
theorem EndsAt.bind {draw : Draw α} {next : α → Draw β} {defects defects' : List DiagramError}
    (h : draw.EndsAt defects) (hnext : ∀ a, (next a).EndsAt defects') :
    (draw >>= next).EndsAt (defects ++ defects') := by
  intro state e
  rw [runFrom_bind, List.head?_append]
  rcases hdraw : draw.runFrom state with ⟨e' | a, after⟩
  · -- The first drawing ends with its first defect, and the second one is not reached.
    have hfirst : defects.head? = some e' := (h state e').1 (congrArg Prod.fst hdraw)
    rw [hfirst, Option.some_or, Option.some.injEq]
    exact ⟨Except.error.inj, congrArg Except.error⟩
  · -- The first drawing has come to a value, so it has no defects.
    have hnone : defects.head? = none := by
      -- If there were a first defect, the drawing would have ended there.
      rw [Option.eq_none_iff_forall_ne_some]
      intro e' hfirst
      have herror := (h state e').2 hfirst
      rw [hdraw] at herror
      nomatch herror
    rw [hnone, Option.none_or]
    exact hnext a after e

/-- Rearranging what has been drawn adds no defect. -/
theorem EndsAt.bind_pure {draw : Draw α} {defects : List DiagramError} (h : draw.EndsAt defects)
    (f : α → β) : (draw >>= fun a => Pure.pure (f a)).EndsAt defects := by
  have hbind := h.bind fun a => EndsAt.pure (f a)
  rwa [List.append_nil] at hbind

end Draw

/-- **Columns** are drawn up to the first one that is refused. -/
theorem drawColumns_endsAt (policy : PrecisionPolicy) (table : String) (columns : List Column) :
    (drawColumns policy table columns).EndsAt
      (columns.flatMap (Column.defects policy table)) := by
  induction columns with
  | nil => exact .pure []
  | cons column columns ih =>
    -- Putting the line of this column in front adds no defect, so those of the other columns
    -- remain.
    have hrest := ih.bind_pure fun lines =>
      ("    " ++ column.name ++ ": " ++ column.typeLabel ++ " ") :: lines
    rw [List.flatMap_cons, Column.defects]
    cases policy with
    | strict =>
      -- The column is refused, or the other columns are drawn as if it were not there.
      rw [drawColumns]
      by_cases hmisses : column.missesPrecision
      · rw [if_pos hmisses, if_pos ⟨rfl, hmisses⟩]
        exact (Draw.EndsAt.of_error (Draw.does_ofExcept (.error _))).bind fun _ => hrest
      · rw [if_neg hmisses, if_neg fun h => hmisses h.2]
        exact hrest
    | lenient =>
      -- A warning ends nothing.
      have hpolicy : ¬(PrecisionPolicy.lenient = .strict ∧ column.missesPrecision) :=
        not_and_of_not_left _ (by decide)
      rw [drawColumns, if_neg hpolicy, List.nil_append]
      split
      · exact (Draw.EndsAt.of_ok (Draw.does_warn _)).bind fun _ => hrest
      · exact hrest

/-- A many-to-one relation is drawn or refused at once. -/
theorem Relation.draw_endsAt (relation : Relation) : relation.draw.EndsAt relation.defects := by
  by_cases h : relation.Drawable
  · rw [defects_eq_nil_iff.2 h]
    exact .of_ok (draw_ok h)
  · rw [defects_of_not_drawable h]
    exact .of_error (draw_error h)

/-- Relations are drawn up to the first one without a drawable key. -/
theorem drawRelations_endsAt (relations : List Relation) :
    (drawRelations relations).EndsAt (relations.flatMap Relation.defects) := by
  induction relations with
  | nil => exact .pure []
  | cons relation relations ih =>
    rw [drawRelations]
    exact relation.draw_endsAt.bind fun _ => ih.bind_pure _

/-- A table ends where its columns end, or else where its relations do. -/
theorem Table.draw_endsAt (policy : PrecisionPolicy) (table : Table) :
    (table.draw policy).EndsAt (table.defects policy) :=
  (drawColumns_endsAt policy table.name table.columns).bind fun _ =>
    (drawRelations_endsAt table.manyToOne).bind_pure _

/-- The tables of a schema are drawn up to the first one with a defect. -/
theorem drawTables_endsAt (policy : PrecisionPolicy) (tables : List Table) :
    (drawTables policy tables).EndsAt (tables.flatMap (Table.defects policy)) := by
  induction tables with
  | nil => exact .pure []
  | cons table tables ih =>
    rw [drawTables]
    exact (table.draw_endsAt policy).bind fun _ => ih.bind_pure _

/-! ### Documents -/

namespace Schema

variable {schema : Schema} {policy : PrecisionPolicy}

/-- **A document is refused** for the first defect of its schema, and only for that. -/
theorem document_eq_error_iff {e : DiagramError} :
    (schema.document policy).1 = .error e ↔ (schema.defects policy).head? = some e := by
  -- The document is put together after all tables have been drawn, which adds no defect.
  have hdraw : (schema.draw policy).EndsAt (schema.defects policy) :=
    (drawTables_endsAt policy schema.tables).bind_pure _
  -- The drawing of a document starts with no keys and no warnings.
  rw [← hdraw .initial e, document]
  rcases (schema.draw policy).runFrom .initial with ⟨e' | value, after⟩
  · exact ⟨fun h => congrArg Except.error (Except.error.inj h),
      fun h => congrArg Except.error (Except.error.inj h)⟩
  · exact iff_of_false (fun h => not_isError_ok _ ⟨e, h⟩) fun h => not_isError_ok _ ⟨e, h⟩

/-- A document is refused just in case the schema has a defect. -/
theorem isError_document_iff :
    IsError (schema.document policy).1 ↔ schema.defects policy ≠ [] := by
  rw [IsError, ← List.isSome_head?, Option.isSome_iff_exists]
  exact exists_congr fun e => document_eq_error_iff

/-- A document that is drawn is that of a schema without defects. -/
theorem defects_eq_nil_of_ok {document : Document}
    (h : (schema.document policy).1 = .ok document) : schema.defects policy = [] := by
  -- A defect would have been the reason for a refusal.
  refine Classical.not_not.1 fun hdefects => ?_
  obtain ⟨e, he⟩ := isError_document_iff.2 hdefects
  nomatch h.symm.trans he

/-- The document of a schema without defects. -/
def drawing (schema : Schema) : Document where
  text := documentText (schema.tables.map Table.drawing)
  keys := RenderedKeys.empty.insertAll (schema.tables.flatMap Table.keyNames)
  relationLines := relationLineCount (schema.tables.map Table.drawing)

/-- All warnings about missing precisions, in the order of the document. -/
def precisionWarnings (schema : Schema) : List Warning :=
  schema.tables.flatMap Table.precisionWarnings

/-- A schema has no defects just in case none of its tables has one. -/
theorem defects_eq_nil_iff :
    schema.defects policy = [] ↔ ∀ table ∈ schema.tables, table.defects policy = [] :=
  List.flatMap_eq_nil_iff

/-- A schema has a defect just in case one of its tables has one. -/
theorem defects_ne_nil_iff :
    schema.defects policy ≠ [] ↔ ∃ table ∈ schema.tables, table.defects policy ≠ [] := by
  rw [ne_eq, defects_eq_nil_iff]
  simp only [Classical.not_forall, exists_prop, ne_eq]

/-- **A document that is drawn** is the same under both policies. Under the strict one it comes
with no warnings because there is nothing to warn of. -/
theorem document_of_defects_eq_nil (h : schema.defects policy = []) :
    schema.document policy = (.ok schema.drawing, schema.precisionWarnings) := by
  -- No table has an undrawable relation, so the lenient drawing goes through.
  have hlenient := document_ok fun table htable =>
    (Table.defects_eq_nil_iff.1 (defects_eq_nil_iff.1 h table htable)).2
  cases policy with
  | lenient => exact hlenient
  | strict =>
    obtain ⟨s, l, hs, hl, -, -, rfl | ⟨table, column, -, hrefused, -⟩⟩ := schema.draw_stricter
    · -- The strict drawing does what the lenient one does.
      rw [document_of_does hs, ← document_of_does hl]
      exact hlenient
    · -- The strict drawing was refused for a column, which would be a defect.
      have herror : (schema.document .strict).1 = .error (.missingPrecision table column) := by
        rw [document_of_does hs, hrefused]
        rfl
      rw [document_eq_error_iff, h] at herror
      nomatch herror

/-- A document that is drawn is the drawing of its schema, and its warnings are all there are. -/
theorem document_of_ok {document : Document} (h : (schema.document policy).1 = .ok document) :
    document = schema.drawing ∧
      schema.document policy = (.ok schema.drawing, schema.precisionWarnings) := by
  have hdrawn := document_of_defects_eq_nil (defects_eq_nil_of_ok h)
  rw [hdrawn] at h
  exact ⟨(Except.ok.inj h).symm, hdrawn⟩

/-- **A lenient document that is refused** comes with the warnings of all tables up to the one with
the defect. -/
theorem lenient_document_of_defect {before after : List Table} {table : Table} {e : DiagramError}
    (hschema : schema.tables = before ++ table :: after)
    (hbefore : ∀ other ∈ before, other.defects .lenient = [])
    (htable : (table.defects .lenient).head? = some e) :
    schema.document .lenient = (.error e, (before ++ [table]).flatMap Table.precisionWarnings) := by
  -- The defect is that of a relation, and all relations before it are drawable.
  rw [Table.lenient_defects, List.head?_flatMap, List.findSome?_eq_some_iff] at htable
  obtain ⟨relationsBefore, relation, relationsAfter, hsplit, hfirst, hrelations⟩ := htable
  have hdrawable : ∀ other ∈ relationsBefore, other.Drawable := fun other hother =>
    Relation.defects_eq_nil_iff.1 (List.head?_eq_none_iff.1 (hrelations other hother))
  -- A drawable relation would have no defect at all.
  have hnot : ¬relation.Drawable := by
    intro hdrawable
    rw [Relation.defects_eq_nil_iff.2 hdrawable] at hfirst
    nomatch hfirst
  rw [Relation.defects_of_not_drawable hnot] at hfirst
  obtain rfl : .missingJoinColumn relation.foreignKey.name = e := Option.some.inj hfirst
  exact document_error hschema (fun other hother =>
    (Table.defects_eq_nil_iff.1 (hbefore other hother)).2) hsplit hdrawable hnot

end Schema

/-! ### What documents are made of -/

/-- **A document made of tables.** Each of them is drawn by itself, with the lines of its
many-to-one relations in order, and the text is put together from these drawings. -/
structure Document.MadeOf (document : Document) (policy : PrecisionPolicy) (tables : List Table) :
    Prop where
  drawn : ∀ table ∈ tables, ∀ state, ((table.draw policy).runFrom state).1 = .ok table.drawing
  lines : ∀ table ∈ tables, ∀ relation ∈ table.manyToOne,
    relation.lines = .ok relation.drawnLines
  text : document.text = documentText (tables.map Table.drawing)

/-- The lines of a drawable relation are drawn. -/
theorem Relation.lines_of_drawable {relation : Relation} (h : relation.Drawable) :
    relation.lines = .ok relation.drawnLines := by
  obtain ⟨column, hcolumn⟩ := h
  rw [drawnLines, lines_of_joinColumn? hcolumn]

/-- A table without defects is drawn, whatever was drawn before. -/
theorem Table.draw_of_defects_eq_nil {policy : PrecisionPolicy} {table : Table}
    (h : table.defects policy = []) (state : DrawState) :
    ((table.draw policy).runFrom state).1 = .ok table.drawing := by
  -- The drawing ends at no defect, so it comes to a value, and there is only one it can come to.
  have hends := table.draw_endsAt policy state
  have hyields := table.draw_yields policy state
  cases hresult : ((table.draw policy).runFrom state).1 with
  | error e =>
    have hfirst := (hends e).1 hresult
    rw [h] at hfirst
    nomatch hfirst
  | ok value => rw [hyields value hresult]

/-- The document of a schema without defects is made of its tables. -/
theorem Schema.drawing_madeOf {policy : PrecisionPolicy} {schema : Schema}
    (h : schema.defects policy = []) : schema.drawing.MadeOf policy schema.tables where
  drawn table htable := Table.draw_of_defects_eq_nil (defects_eq_nil_iff.1 h table htable)
  lines table htable relation hrelation :=
    Relation.lines_of_drawable
      ((Table.defects_eq_nil_iff.1 (defects_eq_nil_iff.1 h table htable)).2 relation hrelation)
  text := rfl

/-! ### Refused documents -/

/-- **The first defect ends the document.** A lenient document is refused just in case some
many-to-one relation has a key onto an index without a plain column, a strict one just in case that
is so or some column lacks its precision. The error is that of the first defect in the order of the
document. A lenient document comes with one warning for each column that lacks its precision, of all
tables if it is drawn and of the tables up to the one with the first defect if it is refused; a
strict one comes with none. -/
theorem first_defect_ends_document (schema : Schema) :
    (IsError (schema.document .lenient).1 ↔
      ∃ table ∈ schema.tables, ∃ relation ∈ table.relations,
        relation.kind = .manyToOne ∧ relation.LacksJoinColumn) ∧
    (IsError (schema.document .strict).1 ↔
      IsError (schema.document .lenient).1 ∨
        ∃ table ∈ schema.tables, ∃ column ∈ table.columns, column.missesPrecision) ∧
    (∀ policy e, (schema.document policy).1 = .error e ↔
      (schema.defects policy).head? = some e) ∧
    ((∃ document, schema.document .lenient =
        (.ok document, schema.tables.flatMap Table.precisionWarnings)) ∨
      ∃ before table after e, schema.tables = before ++ table :: after ∧
        (∀ other ∈ before, other.defects .lenient = []) ∧
        (table.defects .lenient).head? = some e ∧
        schema.document .lenient =
          (.error e, (before ++ [table]).flatMap Table.precisionWarnings)) ∧
    (schema.document .strict).2 = [] := by
  -- The first two parts say of the list of defects when it is empty.
  have hlenient : IsError (schema.document .lenient).1 ↔
      ∃ table ∈ schema.tables, ∃ relation ∈ table.relations,
        relation.kind = .manyToOne ∧ relation.LacksJoinColumn := by
    simp only [Schema.isError_document_iff, Schema.defects_ne_nil_iff, Table.defects_ne_nil_iff,
      reduceCtorEq, false_and, or_false]
  have hstrict : IsError (schema.document .strict).1 ↔ IsError (schema.document .lenient).1 ∨
      ∃ table ∈ schema.tables, ∃ column ∈ table.columns, column.missesPrecision := by
    simp only [hlenient, Schema.isError_document_iff, Schema.defects_ne_nil_iff,
      Table.defects_ne_nil_iff, true_and, and_or_left, exists_or]
  refine ⟨hlenient, hstrict, fun policy e => Schema.document_eq_error_iff, ?_, ?_⟩
  -- If the lenient document is refused, its tables are split at the one with the first defect.
  · cases hdefects : schema.defects .lenient with
    | nil => exact .inl ⟨_, Schema.document_of_defects_eq_nil hdefects⟩
    | cons e _ =>
      -- The first table with a defect has the first defect.
      have hfirst := (congrArg List.head? hdefects).trans List.head?_cons
      rw [Schema.defects, List.head?_flatMap, List.findSome?_eq_some_iff] at hfirst
      obtain ⟨before, table, after, hsplit, htable, hbefore⟩ := hfirst
      have hnone : ∀ other ∈ before, other.defects .lenient = [] := fun other hother =>
        List.head?_eq_none_iff.1 (hbefore other hother)
      exact .inr ⟨before, table, after, e, hsplit, hnone, htable,
        Schema.lenient_document_of_defect hsplit hnone htable⟩
  · -- A strict drawing warns of nothing: what it could warn of is refused.
    obtain ⟨s, -, hs, -, hquiet, -, -⟩ := schema.draw_stricter
    rw [Schema.document_of_does hs]
    exact hquiet

end SchemaDiagram
