import SchemaDiagram.Diagram.Document

/-!
# What drawings do

A drawing runs from a record of keys and warnings and leaves a longer one. What it does is
always of one shape, whatever stands in the record before it: it has a result, it records some
keys and it gives some warnings. `Drawn` holds these three and `Draw.Does` says that a drawing
does just that; there is one lemma for each way in which drawings are made.

For each function that draws a schema without refusing missing precisions there are two lemmas.
If every relation has a column at which its lines can end (`Relation.Drawable`), all is drawn
(`drawRelations_ok`, `Table.draw_ok`, `drawTables_ok`, `Schema.document_ok`). If not, the first
relation without one ends the drawing (`drawRelations_error`, `Table.draw_error`,
`drawTables_error`, `Schema.document_error`), and what was recorded up to it stays.

Under both policies the text of a document, where there is one, is the same
(`Schema.document_text`): a drawing comes to one value or to none (`Draw.Yields`).
-/

namespace SchemaDiagram

/-- Records some keys in order. -/
def RenderedKeys.insertAll (keys : RenderedKeys) (names : List String) : RenderedKeys :=
  names.foldl RenderedKeys.insert keys

/-- **What a drawing does:** its result, the keys that it records and the warnings that it
gives. -/
structure Drawn (α : Type) where
  result : Except DiagramError α
  keys : List String
  warnings : List Warning

/-! ### Drawings in general -/

namespace Draw

variable {α β : Type}

/-- **A drawing does this** from every record: the record only grows, and nothing depends on
it. -/
def Does (draw : Draw α) (drawn : Drawn α) : Prop :=
  ∀ state, draw.runFrom state =
    (drawn.result, ⟨state.keys.insertAll drawn.keys, state.warnings ++ drawn.warnings⟩)

/-- A drawing goes on after a value and stops at an error, with the record as it is then. -/
theorem runFrom_bind (draw : Draw α) (next : α → Draw β) (state : DrawState) :
    (draw >>= next).runFrom state = match draw.runFrom state with
      | (.ok a, after) => (next a).runFrom after
      | (.error e, after) => (.error e, after) := by
  -- The monad is opened once, here; elsewhere drawings are taken apart by this equation.
  have hstep : (draw >>= next).runFrom state =
      ExceptT.bindCont next (draw.runFrom state).1 (draw.runFrom state).2 := rfl
  rw [hstep]
  rcases draw.runFrom state with ⟨e | a, after⟩ <;> rfl

/-- A result that is there already records nothing and gives no warning. -/
theorem does_ofExcept (x : Except DiagramError α) :
    Draw.Does (ExceptT.mk (pure x)) ⟨x, [], []⟩ := by
  intro state
  rw [List.append_nil]
  rfl

/-- A value is such a result. -/
theorem does_pure (a : α) : Draw.Does (pure a) ⟨.ok a, [], []⟩ := does_ofExcept (.ok a)

/-- A warning is given and nothing else is done. -/
theorem does_warn (warning : Warning) : (Draw.warn warning).Does ⟨.ok (), [], [warning]⟩ :=
  fun _ => rfl

/-- A name is recorded and nothing else is done. -/
theorem does_record (key : String) : (Draw.record key).Does ⟨.ok (), [key], []⟩ := by
  intro state
  rw [List.append_nil]
  rfl

/-- What is done next is added to what has been done. -/
theorem does_bind {draw : Draw α} {next : α → Draw β} {a : α} {keys : List String}
    {warnings : List Warning} {drawn all : Drawn β} (h : draw.Does ⟨.ok a, keys, warnings⟩)
    (hnext : (next a).Does drawn)
    (hall : all = ⟨drawn.result, keys ++ drawn.keys, warnings ++ drawn.warnings⟩) :
    (draw >>= next).Does all := by
  intro state
  -- The second drawing runs from the record that the first one leaves.
  rw [runFrom_bind, h state, hall]
  dsimp only
  rw [hnext, RenderedKeys.insertAll, RenderedKeys.insertAll, RenderedKeys.insertAll,
    List.foldl_append, List.append_assoc]

/-- What is returned at the end may depend on the result, and is not reached by an error. -/
theorem does_bind_pure {draw : Draw α} {drawn : Drawn α} (h : draw.Does drawn) (f : α → β) :
    (draw >>= fun a => pure (f a)).Does ⟨drawn.result.map f, drawn.keys, drawn.warnings⟩ := by
  intro state
  rw [runFrom_bind, h state]
  cases drawn.result with
  | error e => rfl
  | ok a => rfl

/-- After an error nothing more is done. -/
theorem does_bind_error {draw : Draw α} {next : α → Draw β} {e : DiagramError}
    {keys : List String} {warnings : List Warning} (h : draw.Does ⟨.error e, keys, warnings⟩) :
    (draw >>= next).Does ⟨.error e, keys, warnings⟩ := by
  intro state
  rw [runFrom_bind, h state]

end Draw

/-! ### Relations -/

namespace Relation

/-- **Drawable.** There is a column at which all lines of the relation end. -/
def Drawable (relation : Relation) : Prop :=
  ∃ column, relation.foreignKey.joinColumn? = some column

/-- The lines of a relation; none if it is not drawable. -/
def drawnLines (relation : Relation) : List String :=
  match relation.lines with
  | .ok lines => lines
  | .error _ => []

variable {relation : Relation}

/-- With a join column there is a line for each column of the key. -/
theorem lines_of_joinColumn? {column : String}
    (h : relation.foreignKey.joinColumn? = some column) :
    relation.lines = .ok (relation.foreignKey.columns.map (relation.line column)) := by
  rw [lines, h]

/-- A relation is not drawable just in case its key has no join column. -/
theorem not_drawable_iff_joinColumn? :
    ¬relation.Drawable ↔ relation.foreignKey.joinColumn? = none := by
  rw [Drawable, Option.eq_none_iff_forall_ne_some, not_exists]

/-- A relation is not drawable just in case no entry of the index is a plain column. -/
theorem not_drawable_iff :
    ¬relation.Drawable ↔ ∀ entry ∈ relation.foreignKey.index, entry.column? = none := by
  rw [not_drawable_iff_joinColumn?, ForeignKey.joinColumn?, List.findSome?_eq_none_iff]

/-- Without a join column the lines are refused, with the name of the key. -/
theorem lines_of_not_drawable (h : ¬relation.Drawable) :
    relation.lines = .error (.missingJoinColumn relation.foreignKey.name) := by
  rw [lines, not_drawable_iff_joinColumn?.1 h]

/-- **A drawable relation** gives its lines and records its key. -/
theorem draw_ok (h : relation.Drawable) :
    relation.draw.Does ⟨.ok relation.drawnLines, [relation.foreignKey.name], []⟩ := by
  obtain ⟨column, hcolumn⟩ := h
  -- The key is recorded after its lines are known.
  rw [draw, drawnLines, lines_of_joinColumn? hcolumn]
  exact Draw.does_bind (Draw.does_ofExcept _)
    (Draw.does_bind (Draw.does_record _) (Draw.does_pure _) rfl) rfl

/-- **Any other relation** is refused before its key is recorded. -/
theorem draw_error (h : ¬relation.Drawable) :
    relation.draw.Does ⟨.error (.missingJoinColumn relation.foreignKey.name), [], []⟩ := by
  rw [draw, lines_of_not_drawable h]
  exact Draw.does_bind_error (Draw.does_ofExcept _)

end Relation

/-- If all relations are drawable, all lines are drawn and all keys recorded. -/
theorem drawRelations_ok {relations : List Relation}
    (h : ∀ relation ∈ relations, relation.Drawable) :
    (drawRelations relations).Does
      ⟨.ok (relations.flatMap Relation.drawnLines), relations.map (·.foreignKey.name), []⟩ := by
  induction relations with
  | nil => exact Draw.does_pure []
  | cons relation relations ih =>
    have hfirst := Relation.draw_ok (h relation List.mem_cons_self)
    have hothers := ih fun other hother => h other (List.mem_cons_of_mem relation hother)
    rw [drawRelations]
    -- The lines of this relation stand in front of the others, and so does its key.
    exact Draw.does_bind hfirst (Draw.does_bind hothers (Draw.does_pure _) rfl) (by simp)

/-- The first relation that is not drawable ends the drawing, and the keys before it stay
recorded. -/
theorem drawRelations_error {before after : List Relation} {relation : Relation}
    (hbefore : ∀ other ∈ before, other.Drawable) (h : ¬relation.Drawable) :
    (drawRelations (before ++ relation :: after)).Does
      ⟨.error (.missingJoinColumn relation.foreignKey.name),
        before.map (·.foreignKey.name), []⟩ := by
  -- What stands behind the relation is never reached, so the induction is on those before it.
  induction before with
  | nil =>
    rw [List.nil_append, drawRelations]
    exact Draw.does_bind_error (Relation.draw_error h)
  | cons other before ih =>
    have hfirst := Relation.draw_ok (hbefore other List.mem_cons_self)
    have hothers := ih fun r hr => hbefore r (List.mem_cons_of_mem other hr)
    rw [List.cons_append, drawRelations]
    exact Draw.does_bind hfirst (Draw.does_bind_error hothers) rfl

/-! ### Tables -/

/-- The line of a column in the block of its table. -/
def Column.blockLine (column : Column) : String :=
  "    " ++ column.name ++ ": " ++ column.typeLabel ++ " "

/-- Lenient drawing of columns always succeeds, with a warning for each missing precision. -/
theorem drawColumns_lenient (table : String) (columns : List Column) :
    (drawColumns .lenient table columns).Does ⟨.ok (columns.map Column.blockLine), [],
      (columns.filter (·.missesPrecision)).map fun column =>
        .missingPrecision table column.name⟩ := by
  induction columns with
  | nil => exact Draw.does_pure []
  | cons column columns ih =>
    -- In front of the other columns: a warning if the precision is missing, then the line.
    rw [drawColumns]
    by_cases hmisses : column.missesPrecision
    · rw [if_pos hmisses]
      exact Draw.does_bind (Draw.does_warn _) (Draw.does_bind ih (Draw.does_pure _) rfl)
        (by simp [hmisses, Column.blockLine])
    · rw [if_neg hmisses]
      exact Draw.does_bind ih (Draw.does_pure _) (by simp [hmisses, Column.blockLine])

/-- Strict drawing of columns succeeds where no precision is missing. -/
theorem drawColumns_strict_ok {columns : List Column}
    (h : ∀ column ∈ columns, ¬column.missesPrecision) (table : String) :
    (drawColumns .strict table columns).Does ⟨.ok (columns.map Column.blockLine), [], []⟩ := by
  induction columns with
  | nil => exact Draw.does_pure []
  | cons column columns ih =>
    obtain ⟨hcolumn, hothers⟩ := List.forall_mem_cons.1 h
    rw [drawColumns, if_neg hcolumn]
    exact Draw.does_bind_pure (ih hothers) _

/-- Strict drawing of columns ends at the first one whose precision is missing. -/
theorem drawColumns_strict_error {columns : List Column} {column : Column}
    (h : columns.find? (·.missesPrecision) = some column) (table : String) :
    (drawColumns .strict table columns).Does
      ⟨.error (.missingPrecision table column.name), [], []⟩ := by
  induction columns with
  | nil => nomatch h
  | cons other columns ih =>
    rw [drawColumns]
    by_cases hother : other.missesPrecision
    · rw [List.find?_cons_of_pos hother] at h
      obtain rfl : other = column := Option.some.inj h
      rw [if_pos hother]
      exact Draw.does_bind_error (Draw.does_ofExcept (.error _))
    · rw [List.find?_cons_of_neg hother] at h
      rw [if_neg hother]
      exact Draw.does_bind_pure (ih h) _

namespace Table

/-- **Drawable.** All many-to-one relations of the table are drawable. -/
def Drawable (table : Table) : Prop := ∀ relation ∈ table.manyToOne, relation.Drawable

/-- The block of a table. -/
def block (table : Table) : String := tableBlock table.name (table.columns.map Column.blockLine)

/-- The lines of the many-to-one relations of a table. -/
def relationLines (table : Table) : List String := table.manyToOne.flatMap Relation.drawnLines

/-- A table drawn, if it is drawable. -/
def drawing (table : Table) : TableDrawing where
  block := table.block
  relations := "\n".intercalate table.relationLines

/-- The names of the keys of a table, as they are drawn. -/
def keyNames (table : Table) : List String := table.manyToOne.map (·.foreignKey.name)

/-- The warnings of a table: one for each column that lacks a precision. -/
def precisionWarnings (table : Table) : List Warning :=
  (table.columns.filter (·.missesPrecision)).map fun column =>
    .missingPrecision table.name column.name

variable {table : Table}

/-- **A drawable table** is drawn, with its keys and its warnings. -/
theorem draw_ok (h : table.Drawable) :
    (table.draw .lenient).Does ⟨.ok table.drawing, table.keyNames, table.precisionWarnings⟩ := by
  have hcolumns := drawColumns_lenient table.name table.columns
  have hrelations := drawRelations_ok h
  rw [draw]
  exact Draw.does_bind hcolumns (Draw.does_bind hrelations (Draw.does_pure _) rfl)
    (by simp [drawing, block, relationLines, keyNames, precisionWarnings])

/-- A table with a relation that is not drawable is refused, after the warnings of all its
columns. -/
theorem draw_error {before after : List Relation} {relation : Relation}
    (htable : table.manyToOne = before ++ relation :: after)
    (hbefore : ∀ other ∈ before, other.Drawable) (h : ¬relation.Drawable) :
    (table.draw .lenient).Does ⟨.error (.missingJoinColumn relation.foreignKey.name),
      before.map (·.foreignKey.name), table.precisionWarnings⟩ := by
  have hcolumns := drawColumns_lenient table.name table.columns
  -- The columns give their warnings before a relation can end the drawing.
  rw [draw, htable]
  exact Draw.does_bind hcolumns (Draw.does_bind_error (drawRelations_error hbefore h))
    (by simp [precisionWarnings])

end Table

/-- If all tables are drawable, all of them are drawn. -/
theorem drawTables_ok {tables : List Table} (h : ∀ table ∈ tables, table.Drawable) :
    (drawTables .lenient tables).Does ⟨.ok (tables.map Table.drawing),
      tables.flatMap Table.keyNames, tables.flatMap Table.precisionWarnings⟩ := by
  induction tables with
  | nil => exact Draw.does_pure []
  | cons table tables ih =>
    have hfirst := Table.draw_ok (h table List.mem_cons_self)
    have hothers := ih fun other hother => h other (List.mem_cons_of_mem table hother)
    rw [drawTables]
    exact Draw.does_bind hfirst (Draw.does_bind hothers (Draw.does_pure _) rfl) (by simp)

/-- The first table that is refused ends the drawing, and what the tables before it have done
stays. -/
theorem drawTables_error {before after : List Table} {table : Table} {e : DiagramError}
    {keys : List String} {warnings : List Warning} (hbefore : ∀ other ∈ before, other.Drawable)
    (h : (table.draw .lenient).Does ⟨.error e, keys, warnings⟩) :
    (drawTables .lenient (before ++ table :: after)).Does
      ⟨.error e, before.flatMap Table.keyNames ++ keys,
        before.flatMap Table.precisionWarnings ++ warnings⟩ := by
  induction before with
  | nil =>
    -- The tables after this one are not drawn.
    rw [List.nil_append, drawTables]
    exact Draw.does_bind_error h
  | cons other before ih =>
    have hfirst := Table.draw_ok (hbefore other List.mem_cons_self)
    have hothers := ih fun t ht => hbefore t (List.mem_cons_of_mem other ht)
    rw [List.cons_append, drawTables]
    exact Draw.does_bind hfirst (Draw.does_bind_error hothers) (by simp)

/-! ### Documents -/

namespace Schema

variable {schema : Schema}

/-- The document consists of what drawing the schema does to an empty record. -/
theorem document_of_does {policy : PrecisionPolicy} {drawn : Drawn (String × Nat)}
    (h : (schema.draw policy).Does drawn) :
    schema.document policy =
      (drawn.result.map fun (text, relationLines) =>
        { text, keys := RenderedKeys.empty.insertAll drawn.keys, relationLines },
        drawn.warnings) := by
  rw [document, h .initial]
  cases drawn.result with
  | error e => rfl
  | ok _ => rfl

/-- **A document is drawn** if all its tables are drawable. -/
theorem document_ok (h : ∀ table ∈ schema.tables, table.Drawable) :
    schema.document .lenient =
      (.ok { text := documentText (schema.tables.map Table.drawing)
             keys := RenderedKeys.empty.insertAll (schema.tables.flatMap Table.keyNames)
             relationLines := relationLineCount (schema.tables.map Table.drawing) },
        schema.tables.flatMap Table.precisionWarnings) := by
  have hdrawn : (schema.draw .lenient).Does
      ⟨.ok (documentText (schema.tables.map Table.drawing),
          relationLineCount (schema.tables.map Table.drawing)),
        schema.tables.flatMap Table.keyNames, schema.tables.flatMap Table.precisionWarnings⟩ :=
    -- Putting the text together does nothing but compute it.
    Draw.does_bind (drawTables_ok h) (Draw.does_pure _) (by simp)
  rw [document_of_does hdrawn]
  rfl

/-- **A document is refused** at the first relation that is not drawable. -/
theorem document_error {tablesBefore tablesAfter : List Table} {table : Table}
    {before after : List Relation} {relation : Relation}
    (hschema : schema.tables = tablesBefore ++ table :: tablesAfter)
    (htables : ∀ other ∈ tablesBefore, other.Drawable)
    (htable : table.manyToOne = before ++ relation :: after)
    (hbefore : ∀ other ∈ before, other.Drawable) (h : ¬relation.Drawable) :
    schema.document .lenient = (.error (.missingJoinColumn relation.foreignKey.name),
      (tablesBefore ++ [table]).flatMap Table.precisionWarnings) := by
  have hdrawn : (schema.draw .lenient).Does
      ⟨.error (.missingJoinColumn relation.foreignKey.name),
        tablesBefore.flatMap Table.keyNames ++ before.map (·.foreignKey.name),
        tablesBefore.flatMap Table.precisionWarnings ++ table.precisionWarnings⟩ := by
    rw [draw, hschema]
    exact Draw.does_bind_error (drawTables_error htables (Table.draw_error htable hbefore h))
  rw [document_of_does hdrawn, List.flatMap_append, List.flatMap_singleton]
  rfl

end Schema

/-! ### What a document shows -/

namespace Draw

variable {α β : Type} {a : α} {b : β}

/-- The drawing comes to this value and to no other. It may still be refused. -/
def Yields (draw : Draw α) (a : α) : Prop :=
  ∀ state value, (draw.runFrom state).1 = .ok value → value = a

/-- A drawing that does one thing comes to one value at most. -/
theorem Yields.of_does {draw : Draw α} {drawn : Drawn α} (h : draw.Does drawn)
    (hresult : ∀ value, drawn.result = .ok value → value = a) : draw.Yields a := by
  intro state value hvalue
  rw [h state] at hvalue
  exact hresult value hvalue

/-- A value comes to itself. -/
theorem Yields.pure (a : α) : (Pure.pure a : Draw α).Yields a :=
  .of_does (does_pure a) fun _ h => (Except.ok.inj h).symm

/-- There is only one value that a drawing without a value can come to. -/
theorem Yields.unit (draw : Draw Unit) : draw.Yields () := fun _ _ _ => rfl

/-- A drawing in two steps comes to what the second one comes to after the value of the first. -/
theorem Yields.bind {draw : Draw α} {next : α → Draw β} (h : draw.Yields a)
    (hnext : (next a).Yields b) : (draw >>= next).Yields b := by
  intro state value hvalue
  rw [runFrom_bind] at hvalue
  rcases hdraw : draw.runFrom state with ⟨e | a', after⟩
  · rw [hdraw] at hvalue
    nomatch hvalue
  · rw [hdraw] at hvalue
    obtain rfl : a' = a := h state a' (congrArg Prod.fst hdraw)
    exact hnext after value hvalue

end Draw

/-- Columns come to their lines, under both policies. -/
theorem drawColumns_yields (policy : PrecisionPolicy) (table : String) (columns : List Column) :
    (drawColumns policy table columns).Yields (columns.map Column.blockLine) := by
  induction columns with
  | nil => exact .pure []
  | cons column columns ih =>
    -- The check has no result, so it is the rest that decides.
    have hrest : (drawColumns policy table columns >>= fun lines =>
        pure (column.blockLine :: lines)).Yields ((column :: columns).map Column.blockLine) :=
      ih.bind (.pure _)
    cases policy with
    | strict =>
      rw [drawColumns]
      split
      · exact (Draw.Yields.unit _).bind hrest
      · exact hrest
    | lenient =>
      rw [drawColumns]
      split
      · exact (Draw.Yields.unit _).bind hrest
      · exact hrest

/-- A relation comes to its lines, if it comes to anything. -/
theorem Relation.draw_yields (relation : Relation) : relation.draw.Yields relation.drawnLines := by
  by_cases h : relation.Drawable
  · exact .of_does (draw_ok h) fun _ h => (Except.ok.inj h).symm
  · exact .of_does (draw_error h) fun _ h => nomatch h

/-- Relations come to all their lines. -/
theorem drawRelations_yields (relations : List Relation) :
    (drawRelations relations).Yields (relations.flatMap Relation.drawnLines) := by
  induction relations with
  | nil => exact .pure []
  | cons relation relations ih =>
    rw [drawRelations]
    exact relation.draw_yields.bind (ih.bind (.pure _))

/-- A table comes to its drawing, if it comes to anything: its columns first, then its relations. -/
theorem Table.draw_yields (policy : PrecisionPolicy) (table : Table) :
    (table.draw policy).Yields table.drawing :=
  (drawColumns_yields policy table.name table.columns).bind
    ((drawRelations_yields table.manyToOne).bind (.pure _))

/-- The tables come to their drawings, in the order in which the schema lists them. -/
theorem drawTables_yields (policy : PrecisionPolicy) (tables : List Table) :
    (drawTables policy tables).Yields (tables.map Table.drawing) := by
  induction tables with
  | nil => exact .pure []
  | cons table tables ih =>
    rw [drawTables]
    exact (table.draw_yields policy).bind (ih.bind (.pure _))

/-- The text of a schema: the blocks of its tables, then the groups of their relation lines. -/
def Schema.text (schema : Schema) : String :=
  "\n\n".intercalate (schema.tables.map Table.block) ++ "\n\n" ++
    "\n".intercalate (schema.tables.map fun table => "\n".intercalate table.relationLines)

/-- **The text of a document** is that of its schema, under either policy. -/
theorem Schema.document_text {schema : Schema} {policy : PrecisionPolicy} {document : Document}
    (h : (schema.document policy).1 = .ok document) : document.text = schema.text := by
  -- Drawn with success, the schema has the drawings of its tables: text and count go by them.
  have hdraw : (schema.draw policy).Yields (documentText (schema.tables.map Table.drawing),
      relationLineCount (schema.tables.map Table.drawing)) :=
    (drawTables_yields policy schema.tables).bind (.pure _)
  unfold Schema.document at h
  -- A failed drawing gives no document.
  rcases hrun : (schema.draw policy).runFrom .initial with ⟨e | ⟨text, count⟩, after⟩
  · rw [hrun] at h
    nomatch h
  · rw [hrun] at h
    obtain rfl : _ = document := Except.ok.inj h
    obtain ⟨rfl, -⟩ := Prod.mk.inj (hdraw .initial _ (congrArg Prod.fst hrun))
    rw [documentText, text, List.map_map, List.map_map]
    rfl

end SchemaDiagram
