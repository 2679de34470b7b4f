import Mathlib.Algebra.Ring.Nat
import Mathlib.Data.List.Basic
import SchemaDiagram.Proofs.Defects
import SchemaDiagram.Proofs.Pieces

/-!
# Counting relation lines

The number of relation lines of a document is not added up as they are drawn: the lines of a table
are counted in the text of its group. That is their number as long as each of them is one line of
text (`IsTextLine`), neither empty nor divided by a line feed (`lineCount_intercalate`). The lines
of a relation are, if there is no line feed in the names that they are made of
(`Relation.FitsLines`); what else stands in a line keeps it from being empty.

`relation_lines_counted` says so for a document: the lines that are read off its relation part, the
lines that are drawn and the columns of its keys are equally many.
-/

namespace SchemaDiagram

/-! ### Lines of text -/

/-- **A line of text** is not empty and has no line feed. -/
def IsTextLine (line : String) : Prop := line ≠ "" ∧ '\n' ∉ line.toList

/-- A character within a line does not change the number of lines. -/
theorem lineCount_cons {c : Char} {cs : List Char} (hc : c ≠ '\n') (hcs : cs ≠ []) :
    lineCount (c :: cs) = lineCount cs := by
  rw [lineCount, if_neg hc]
  exact hcs

/-- Characters without a line feed are one line, if there are any. -/
theorem lineCount_of_not_mem {cs : List Char} (hne : cs ≠ []) (h : '\n' ∉ cs) :
    lineCount cs = 1 := by
  -- By the characters: the last one makes the line, and those before it add nothing.
  induction cs with
  | nil => exact absurd rfl hne
  | cons c cs ih =>
    obtain ⟨hc, hcs⟩ := not_or.1 (mt List.mem_cons.2 h)
    cases cs with
    | nil => rfl
    | cons next cs =>
      rw [lineCount_cons (Ne.symm hc) (List.cons_ne_nil next cs)]
      exact ih (List.cons_ne_nil next cs) hcs

/-- A line feed ends a line, whatever follows. -/
theorem lineCount_append {xs : List Char} (h : '\n' ∉ xs) (ys : List Char) :
    lineCount (xs ++ '\n' :: ys) = lineCount ys + 1 := by
  induction xs with
  | nil =>
    cases ys with
    | nil => rfl
    | cons y ys => exact if_pos rfl
  | cons x xs ih =>
    obtain ⟨hx, hxs⟩ := not_or.1 (mt List.mem_cons.2 h)
    rw [List.cons_append, lineCount_cons (Ne.symm hx) (by simp), ih hxs]

/-- **As many lines as were joined** are counted in a text. -/
theorem lineCount_intercalate {lines : List String} (h : ∀ line ∈ lines, IsTextLine line) :
    lineCount ("\n".intercalate lines).toList = lines.length := by
  have hfeed : "\n".toList = ['\n'] := by decide
  rw [String.toList_intercalate, hfeed]
  -- A line before another one is ended by a line feed, the last one by the end of the text.
  induction lines with
  | nil => rfl
  | cons line lines ih =>
    obtain ⟨⟨hne, hline⟩, hothers⟩ := List.forall_mem_cons.1 h
    cases lines with
    | nil =>
      rw [List.map_singleton, List.intercalate_singleton]
      exact lineCount_of_not_mem (mt String.toList_eq_nil_iff.1 hne) hline
    | cons next lines =>
      rw [List.map_cons, List.map_cons, List.intercalate_cons_cons, List.append_assoc,
        List.singleton_append, lineCount_append hline]
      exact congrArg (· + 1) (ih hothers)

/-- Splitting at line feeds what was joined by them gives the lines. -/
theorem splitOn_intercalate_textLines {lines : List String} (h : ∀ line ∈ lines, IsTextLine line) :
    (Text.splitOn '\n' ("\n".intercalate lines)).filter (· ≠ "") = lines := by
  rw [Text.splitOn_intercalate (by decide)]
  -- By the lines: each is a piece of its own and is not empty, so the filter keeps it.
  induction lines with
  | nil => rfl
  | cons line lines ih =>
    obtain ⟨⟨hne, hline⟩, hothers⟩ := List.forall_mem_cons.1 h
    have hkeep : [line].filter (· ≠ "") = [line] := by simp [hne]
    rw [List.flatMap_cons, ih hothers, Text.splitOn_of_not_mem hline, hkeep, List.singleton_append]

/-! ### Relation lines -/

namespace Relation

variable {relation : Relation}

/-- **Fits lines.** There is no line feed in the names that the lines of the relation show. -/
structure FitsLines (relation : Relation) : Prop where
  source : '\n' ∉ relation.sourceTable.toList
  target : '\n' ∉ relation.targetTable.toList
  columns : ∀ column ∈ relation.foreignKey.columns, '\n' ∉ column.toList
  joinColumn : ∀ column ∈ relation.foreignKey.joinColumn?, '\n' ∉ column.toList

instance (relation : Relation) : Decidable relation.FitsLines :=
  decidable_of_iff ('\n' ∉ relation.sourceTable.toList ∧ '\n' ∉ relation.targetTable.toList ∧
      (∀ column ∈ relation.foreignKey.columns, '\n' ∉ column.toList) ∧
      ∀ column ∈ relation.foreignKey.joinColumn?, '\n' ∉ column.toList)
    ⟨fun ⟨source, target, columns, joinColumn⟩ => ⟨source, target, columns, joinColumn⟩,
      fun h => ⟨h.source, h.target, h.columns, h.joinColumn⟩⟩

/-- What a relation draws is a line of text: no name brings a line feed, and the dots keep the line
from being empty. -/
theorem isTextLine_line (h : relation.FitsLines) {target column : String}
    (htarget : '\n' ∉ target.toList) (hcolumn : '\n' ∉ column.toList) :
    IsTextLine (relation.line target column) := by
  -- The symbols are fixed texts.
  have hsymbol : '\n' ∉ relation.kind.symbol.toList := by
    cases relation.kind <;> decide
  constructor
  · intro hempty
    have hchars := congrArg String.toList hempty
    simp [line] at hchars
  · simp [line, h.source, h.target, htarget, hcolumn, hsymbol]

/-- All lines of a relation are lines of text, also where it has none. -/
theorem isTextLine_of_mem_drawnLines (h : relation.FitsLines) :
    ∀ line ∈ relation.drawnLines, IsTextLine line := by
  by_cases hdrawable : relation.Drawable
  · obtain ⟨target, htarget⟩ := hdrawable
    rw [drawnLines, lines_of_joinColumn? htarget]
    refine List.forall_mem_map.2 fun column hcolumn => ?_
    exact isTextLine_line h (h.joinColumn target htarget) (h.columns column hcolumn)
  · rw [drawnLines, lines_of_not_drawable hdrawable]
    exact fun _ hline => absurd hline List.not_mem_nil

/-- A drawn relation has a line for each column of its key. -/
theorem length_drawnLines (h : relation.Drawable) :
    relation.drawnLines.length = relation.foreignKey.columns.length := by
  obtain ⟨target, htarget⟩ := h
  rw [drawnLines, lines_of_joinColumn? htarget]
  exact List.length_map _

end Relation

/-! ### Documents -/

/-- The lines that are counted table by table are all lines. -/
theorem relationLineCount_drawings {tables : List Table}
    (h : ∀ table ∈ tables, ∀ line ∈ table.relationLines, IsTextLine line) :
    relationLineCount (tables.map Table.drawing) = (tables.flatMap Table.relationLines).length := by
  -- By the tables: their counts are added up, and so are the lengths of their lists of lines.
  induction tables with
  | nil => rfl
  | cons table tables ih =>
    obtain ⟨htable, hothers⟩ := List.forall_mem_cons.1 h
    rw [List.map_cons, relationLineCount, ih hothers, List.flatMap_cons, List.length_append]
    exact congrArg (· + _) (lineCount_intercalate htable)

/-- The groups of all tables, joined by line feeds, are split into all lines. -/
theorem splitOn_groups {tables : List Table}
    (h : ∀ table ∈ tables, ∀ line ∈ table.relationLines, IsTextLine line) :
    (Text.splitOn '\n' ("\n".intercalate (tables.map fun table => table.drawing.relations))).filter
      (· ≠ "") = tables.flatMap Table.relationLines := by
  rw [Text.splitOn_intercalate (by decide), List.flatMap_map]
  exact List.flatMap_congr fun table htable => splitOn_intercalate_textLines (h table htable)

namespace Schema

/-- The many-to-one relations of all tables, in the order of the document. -/
def manyToOne (schema : Schema) : List Relation := schema.tables.flatMap Table.manyToOne

variable {schema : Schema}

/-- The relation lines of a table of the schema are lines of text. -/
theorem isTextLine_of_mem_relationLines (h : ∀ relation ∈ schema.manyToOne, relation.FitsLines)
    {table : Table} (htable : table ∈ schema.tables) :
    ∀ line ∈ table.relationLines, IsTextLine line := by
  intro line hline
  obtain ⟨relation, hrelation, hline⟩ := List.mem_flatMap.1 hline
  exact Relation.isTextLine_of_mem_drawnLines
    (h relation (List.mem_flatMap.2 ⟨table, htable, hrelation⟩)) line hline

/-- Going by tables and then by relations gives the lines in the order of all relations. -/
theorem flatMap_relationLines (schema : Schema) :
    schema.tables.flatMap Table.relationLines = schema.manyToOne.flatMap Relation.drawnLines := by
  rw [manyToOne, List.flatMap_assoc]
  rfl

/-- All lines are as many as the columns of all keys. -/
theorem length_drawnLines (h : ∀ relation ∈ schema.manyToOne, relation.Drawable) :
    (schema.manyToOne.flatMap Relation.drawnLines).length =
      (schema.manyToOne.map fun relation => relation.foreignKey.columns.length).sum := by
  rw [List.length_flatMap, List.map_congr_left fun relation hrelation =>
    Relation.length_drawnLines (h relation hrelation)]

end Schema

/-- **The number of relation lines** of a document that is drawn, if there is no line feed in the
names that its relation lines show. Behind the blocks of the tables and a blank line, the text
splits at its line feeds into the lines of all many-to-one relations in order, and maybe empty
pieces. The number of relation lines is the number of these lines, and that is how many columns the
keys of all these relations have together. -/
theorem relation_lines_counted (schema : Schema) (policy : PrecisionPolicy) (document : Document)
    (h : (schema.document policy).1 = .ok document)
    (hfits : ∀ relation ∈ schema.manyToOne, relation.FitsLines) :
    document.MadeOf policy schema.tables ∧
    ∃ groups part, schema.manyToOne.mapM Relation.lines = .ok groups ∧
      document.text = "\n\n".intercalate (schema.tables.map fun table => table.drawing.block) ++
        "\n\n" ++ part ∧
      (Text.splitOn '\n' part).filter (· ≠ "") = groups.flatten ∧
      document.relationLines = groups.flatten.length ∧
      document.relationLines =
        (schema.manyToOne.map fun relation => relation.foreignKey.columns.length).sum := by
  have hdefects := Schema.defects_eq_nil_of_ok h
  obtain ⟨rfl, -⟩ := Schema.document_of_ok h
  have hmade := Schema.drawing_madeOf hdefects
  -- Every relation has its lines, and each of them is a line of text.
  have hlines : ∀ table ∈ schema.tables, ∀ line ∈ table.relationLines, IsTextLine line :=
    fun table htable => Schema.isTextLine_of_mem_relationLines hfits htable
  have hdrawable : ∀ relation ∈ schema.manyToOne, relation.Drawable := by
    intro relation hrelation
    obtain ⟨table, htable, hrelation⟩ := List.mem_flatMap.1 hrelation
    have htableDefects := Schema.defects_eq_nil_iff.1 hdefects table htable
    exact (Table.defects_eq_nil_iff.1 htableDefects).2 relation hrelation
  -- What is counted in the groups is the number of lines that were joined.
  have hcount : schema.drawing.relationLines =
      (schema.manyToOne.flatMap Relation.drawnLines).length := by
    rw [← schema.flatMap_relationLines]
    exact relationLineCount_drawings hlines
  refine ⟨hmade, schema.manyToOne.map Relation.drawnLines,
    "\n".intercalate (schema.tables.map fun table => table.drawing.relations),
    mapM_eq_ok fun relation hrelation => Relation.lines_of_drawable (hdrawable relation hrelation),
    ?_, ?_, ?_, ?_⟩
  · -- The text is blocks, a blank line and groups, as for every document.
    rw [hmade.text, documentText, List.map_map, List.map_map]
    rfl
  · rw [splitOn_groups hlines, schema.flatMap_relationLines, List.flatMap_def]
  · rw [hcount, List.flatMap_def]
  · rw [hcount, Schema.length_drawnLines hdrawable]

/-- Stock is kept by site and bin, and the bins of a site are listed on a map, which no column
refers to. -/
def warehouseSchema : Schema where
  name := "public"
  tables :=
    [⟨"bins", [], [⟨.oneToMany, "bins", none, "stock", ⟨"stock_bin_fk", ["site", "bin"],
        [.expression "lower(site)", .column "site", .column "number"]⟩, none⟩]⟩,
      ⟨"maps", [], []⟩,
      ⟨"stock", [],
        [⟨.manyToOne, "stock", none, "bins", ⟨"stock_bin_fk", ["site", "bin"],
            [.expression "lower(site)", .column "site", .column "number"]⟩, none⟩,
          ⟨.manyToOne, "stock", none, "maps", ⟨"stock_map_fk", [], [.column "site"]⟩, none⟩]⟩]

/-- The key by site and bin has two lines and the one without columns none, and the groups of the
other two tables are empty. -/
theorem relation_lines_counted_warehouse :
    (∀ relation ∈ warehouseSchema.manyToOne, relation.FitsLines) ∧
    ∃ document, (warehouseSchema.document .strict).1 = .ok document ∧ document.relationLines = 2 ∧
      ∃ groups part, warehouseSchema.manyToOne.mapM Relation.lines = .ok groups ∧
        groups.flatten = ["stock.site > bins.site", "stock.bin > bins.site"] ∧
        (Text.splitOn '\n' part).filter (· ≠ "") = groups.flatten := by
  have hfits : ∀ relation ∈ warehouseSchema.manyToOne, relation.FitsLines := by decide
  have hdefects : warehouseSchema.defects .strict = [] := by decide
  have hdocument := congrArg Prod.fst (Schema.document_of_defects_eq_nil hdefects)
  obtain ⟨-, groups, part, hgroups, -, hpieces, -, hcount⟩ :=
    relation_lines_counted warehouseSchema .strict _ hdocument hfits
  have hlines : groups = [["stock.site > bins.site", "stock.bin > bins.site"], []] :=
    Except.ok.inj (hgroups.symm.trans (by decide))
  subst hlines
  exact ⟨hfits, _, hdocument, hcount, _, part, hgroups, by decide, hpieces⟩

end SchemaDiagram
