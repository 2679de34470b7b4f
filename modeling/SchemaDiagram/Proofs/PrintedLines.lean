import SchemaDiagram.Proofs.Drawing
import SchemaDiagram.Proofs.RenderedFiles

/-!
# Lines of documents on standard output

Documents that are printed stand on standard output one right behind the other. Their lines stay
apart as long as every document but the last one is **closed**, which means that it is empty or ends
with a line feed (`Text.Closed`): then the lines of the output are those of the documents in order.
If one of them is not closed, its last line and the first one of the next document are one line
(`Text.lines_flatten_eq_iff`).

A document is closed just in case the last relation line of its last table is
(`Schema.closed_text_iff`); so it is whenever that table has no relation lines.
`printed_lines_apart_iff` puts this together for a run, and `glued_header` is a run whose output
does not have the header of its second document as a line.
-/

namespace SchemaDiagram

/-! ### Lines -/

namespace Text

/-- A character in front of the first line of a text. -/
def ontoFirst (c : Char) : List (List Char) → List (List Char)
  | [] => [[c]]
  | line :: lines => (c :: line) :: lines

/-- **The lines of a text.** Each is ended by a line feed or by the end of the text. -/
def lines : List Char → List (List Char)
  | [] => []
  | c :: cs => if c = '\n' then [] :: lines cs else ontoFirst c (lines cs)

/-- **Closed text.** The last character, if there is one, is a line feed. -/
def Closed (cs : List Char) : Prop := ∀ c ∈ cs.getLast?, c = '\n'

variable {xs ys : List Char}

/-- The empty text is closed. -/
theorem closed_nil : Closed [] := fun _ h => absurd h (Option.not_mem_none _)

/-- A character in front does not matter as long as something follows it. -/
theorem closed_cons_of_ne_nil {c : Char} (h : xs ≠ []) : Closed (c :: xs) ↔ Closed xs := by
  obtain ⟨x, xs, rfl⟩ := List.exists_cons_of_ne_nil h
  rw [Closed, List.getLast?_cons_cons]
  rfl

/-- What stands before the end of a text matters only where it is the end. -/
theorem closed_append_iff (h : Closed xs) : Closed (xs ++ ys) ↔ Closed ys := by
  cases ys with
  | nil => exact iff_of_true (by rwa [List.append_nil]) closed_nil
  | cons y ys =>
    have hlast : (xs ++ y :: ys).getLast? = (y :: ys).getLast? :=
      List.getLast?_append_of_ne_nil xs (List.cons_ne_nil y ys)
    rw [Closed, hlast]
    rfl

/-- Pieces with a line feed between any two of them are closed if the last one is. -/
theorem closed_intercalate_iff (pieces : List (List Char)) :
    Closed (['\n'].intercalate pieces) ↔ ∀ piece ∈ pieces.getLast?, Closed piece := by
  induction pieces with
  | nil => exact iff_of_true closed_nil fun _ h => absurd h (Option.not_mem_none _)
  | cons piece pieces ih =>
    cases pieces with
    | nil => simp
    | cons next pieces =>
      -- A line feed follows the piece, so it is closed whatever it is, and the rest decides.
      have hfeed : Closed (piece ++ ['\n']) := by
        rw [Closed, List.getLast?_concat]
        rintro c ⟨rfl⟩
        rfl
      rw [List.intercalate_cons_cons, closed_append_iff hfeed, ih, List.getLast?_cons_cons]

/-- A text with a character has a line. -/
theorem lines_ne_nil (h : xs ≠ []) : lines xs ≠ [] := by
  obtain ⟨x, xs, rfl⟩ := List.exists_cons_of_ne_nil h
  rw [lines]
  split
  · exact List.cons_ne_nil _ _
  · cases lines xs <;> exact List.cons_ne_nil _ _

/-- The first line stays the first one if other lines are put behind it. -/
theorem ontoFirst_append {c : Char} {ls ms : List (List Char)} (h : ls ≠ []) :
    ontoFirst c (ls ++ ms) = ontoFirst c ls ++ ms := by
  obtain ⟨l, ls, rfl⟩ := List.exists_cons_of_ne_nil h
  rfl

/-- A longer first line makes no more lines. -/
theorem length_ontoFirst {c : Char} {ls : List (List Char)} (h : ls ≠ []) :
    (ontoFirst c ls).length = ls.length := by
  obtain ⟨l, ls, rfl⟩ := List.exists_cons_of_ne_nil h
  rfl

/-- **Behind a closed text** begins a new line. -/
theorem lines_append_of_closed (h : Closed xs) : lines (xs ++ ys) = lines xs ++ lines ys := by
  induction xs with
  | nil => rfl
  | cons x xs ih =>
    rw [List.cons_append, lines, lines]
    -- A line feed ends a line here, any other character goes to the first line of what follows.
    by_cases hx : x = '\n'
    · have hxs : Closed xs := by
        by_cases hnil : xs = []
        · rw [hnil]
          exact closed_nil
        · exact (closed_cons_of_ne_nil hnil).1 h
      rw [if_pos hx, if_pos hx, ih hxs, List.cons_append]
    · -- A character that is no line feed is not the last one.
      have hnil : xs ≠ [] := by
        rintro rfl
        exact hx (h x rfl)
      rw [if_neg hx, if_neg hx, ih ((closed_cons_of_ne_nil hnil).1 h),
        ontoFirst_append (lines_ne_nil hnil)]

/-- **Behind any other text** the line goes on, so that there is one line less. -/
theorem length_lines_append (h : ¬Closed xs) (hys : ys ≠ []) :
    (lines (xs ++ ys)).length + 1 = (lines xs).length + (lines ys).length := by
  induction xs with
  | nil => exact absurd closed_nil h
  | cons x xs ih =>
    rw [List.cons_append, lines, lines]
    -- The line feed is not at the end, since the text is not closed.
    by_cases hx : x = '\n'
    · have hnil : xs ≠ [] := by
        rintro rfl
        refine h ?_
        rintro c ⟨rfl⟩
        exact hx
      have hrest := ih fun hxs => h ((closed_cons_of_ne_nil hnil).2 hxs)
      rw [if_pos hx, if_pos hx, List.length_cons, List.length_cons]
      omega
    · -- The character goes to the first line, which is that of the second text if nothing else is
      -- left.
      rw [if_neg hx, if_neg hx]
      by_cases hnil : xs = []
      · rw [hnil, List.nil_append, length_ontoFirst (lines_ne_nil hys)]
        exact Nat.add_comm _ _
      · have hrest := ih fun hxs => h ((closed_cons_of_ne_nil hnil).2 hxs)
        rw [length_ontoFirst (lines_ne_nil (by simp [hnil])), length_ontoFirst (lines_ne_nil hnil)]
        exact hrest

/-- There are never more lines than those of the two texts. -/
theorem length_lines_append_le (xs ys : List Char) :
    (lines (xs ++ ys)).length ≤ (lines xs).length + (lines ys).length := by
  by_cases h : Closed xs
  · have hlines : (lines (xs ++ ys)).length = (lines xs ++ lines ys).length :=
      congrArg List.length (lines_append_of_closed h)
    exact Nat.le_of_eq (hlines.trans List.length_append)
  · -- Nothing follows, so the line that is open ends here as well.
    by_cases hys : ys = []
    · rw [hys, List.append_nil]
      exact Nat.le_add_right _ _
    · have := length_lines_append h hys
      omega

/-- There are never more lines than those of all texts. -/
theorem length_lines_flatten_le (texts : List (List Char)) :
    (lines texts.flatten).length ≤ (texts.flatMap lines).length := by
  induction texts with
  | nil => exact Nat.le_refl _
  | cons text texts ih =>
    rw [List.flatten_cons, List.flatMap_cons, List.length_append]
    exact Nat.le_trans (length_lines_append_le _ _) (Nat.add_le_add_left ih _)

/-- **Lines stay apart** where texts are put together, if all but the last are closed, and only
then. -/
theorem lines_flatten_eq_iff {texts : List (List Char)} (hne : ∀ text ∈ texts, text ≠ []) :
    lines texts.flatten = texts.flatMap lines ↔ ∀ text ∈ texts.dropLast, Closed text := by
  induction texts with
  | nil => exact iff_of_true rfl fun _ h => absurd h List.not_mem_nil
  | cons text texts ih =>
    obtain ⟨-, hothers⟩ := List.forall_mem_cons.1 hne
    rw [List.flatten_cons, List.flatMap_cons]
    cases texts with
    | nil =>
      refine iff_of_true ?_ fun _ h => absurd h List.not_mem_nil
      rw [List.flatten_nil, List.append_nil, List.flatMap_nil, List.append_nil]
    | cons next texts =>
      rw [List.dropLast_cons_cons, List.forall_mem_cons, ← ih hothers]
      constructor
      · intro hlines
        have hrest : (next :: texts).flatten ≠ [] := by
          rw [List.flatten_cons]
          simp [hothers next List.mem_cons_self]
        -- If the first text were not closed, a line would be missing.
        have hclosed : Closed text := by
          by_contra hopen
          have hshort := length_lines_append hopen hrest
          have hlong := length_lines_flatten_le (next :: texts)
          rw [hlines, List.length_append] at hshort
          omega
        rw [lines_append_of_closed hclosed] at hlines
        exact ⟨hclosed, List.append_cancel_left hlines⟩
      · rintro ⟨hclosed, hlines⟩
        rw [lines_append_of_closed hclosed, hlines]

end Text

/-! ### Documents -/

/-- **The document of a schema is closed** if the last relation line of its last table is. -/
def Schema.EndsClosed (schema : Schema) : Prop :=
  ∀ table ∈ schema.tables.getLast?, ∀ line ∈ table.relationLines.getLast?, Text.Closed line.toList

/-- **The relation group of a table** is closed if its last line is. -/
theorem Table.closed_relations_iff (table : Table) :
    Text.Closed ("\n".intercalate table.relationLines).toList ↔
      ∀ line ∈ table.relationLines.getLast?, Text.Closed line.toList := by
  have hlines : ("\n".intercalate table.relationLines).toList =
      ['\n'].intercalate (table.relationLines.map String.toList) := String.toList_intercalate
  rw [hlines, Text.closed_intercalate_iff, List.getLast?_map]
  simp

/-- **The text of a schema** is closed just in case the last line of its last relation group is. -/
theorem Schema.closed_text_iff (schema : Schema) :
    Text.Closed schema.text.toList ↔ schema.EndsClosed := by
  -- The relation groups stand behind the blank line after the blocks.
  have htext : schema.text.toList =
      (("\n\n".intercalate (schema.tables.map Table.block)).toList ++ ['\n', '\n']) ++
        ['\n'].intercalate (schema.tables.map fun table =>
          ("\n".intercalate table.relationLines).toList) := by
    have hgroups : ("\n".intercalate (schema.tables.map fun table =>
        "\n".intercalate table.relationLines)).toList = ['\n'].intercalate
          (schema.tables.map fun table => ("\n".intercalate table.relationLines).toList) := by
      rw [String.toList_intercalate, List.map_map]
      rfl
    rw [text, String.toList_append, String.toList_append, hgroups]
    rfl
  -- The blank line ends with a line feed, so only the relation groups matter.
  have hblank : Text.Closed
      (("\n\n".intercalate (schema.tables.map Table.block)).toList ++ ['\n', '\n']) := by
    rw [Text.Closed, List.getLast?_append_of_ne_nil _ (List.cons_ne_nil _ _)]
    rintro c ⟨rfl⟩
    rfl
  rw [htext, Text.closed_append_iff hblank, Text.closed_intercalate_iff, List.getLast?_map]
  cases hlast : schema.tables.getLast? with
  -- A schema without tables has no relation groups either.
  | none =>
    refine iff_of_true (fun _ h => absurd h (Option.not_mem_none _)) fun table h => ?_
    rw [hlast] at h
    exact absurd h (Option.not_mem_none _)
  | some table =>
    rw [Option.map_some]
    constructor
    · -- There is only one last table.
      intro hclosed other hother
      obtain rfl : table = other := Option.some.inj (hlast.symm.trans hother)
      exact table.closed_relations_iff.1 (hclosed _ rfl)
    · rintro hclosed piece ⟨rfl⟩
      exact table.closed_relations_iff.2 (hclosed table hlast)

/-- The text of a schema has the blank line in it, even if there is no table. -/
theorem Schema.text_ne_nil (schema : Schema) : schema.text.toList ≠ [] := by
  rw [text, String.toList_append, String.toList_append]
  simp

/-! ### Printed runs -/

/-- The schema of this name, without the tables that are not selected. -/
def Rendering.schema? (r : Rendering) (name : String) : Option Schema :=
  (r.catalog.schema? name).map r.filter.apply

/-- The text of a document is that of its schema. -/
theorem Rendering.text_of_schema? {r : Rendering} {name : String} {document : Document}
    (h : r.document name = .ok document) :
    ∃ schema, r.schema? name = some schema ∧ document.text = schema.text ∧
      r.text name = schema.text := by
  obtain ⟨whole, hwhole, hdocument⟩ := bind_eq_ok.1 h
  have hfound : r.catalog.schema? name = some whole :=
    Catalog.requireSchema_eq_ok.1 (mapError_eq_ok.1 hwhole)
  have htext := Schema.document_text (mapError_eq_ok.1 hdocument)
  refine ⟨r.filter.apply whole, ?_, htext, (Rendering.text_of_document h).trans htext⟩
  rw [schema?, hfound]
  rfl

/-- What a run for diagrams prints. -/
def RenderOptions.printed (env : Environment) (options : RenderOptions) (files : FileTree) :
    String :=
  (((Command.render options).report env).perform files).standardOutput

/-- **The lines of all documents in order,** each document by itself. -/
def Rendering.documentLines (r : Rendering) : List (List Char) :=
  r.settings.schemas.flatMap fun name => Text.lines (r.text name).toList

section Printed

variable {env : Environment} {options : RenderOptions} {r : Rendering}

/-- **Printed output:** the texts of all documents, one behind the other. -/
theorem RenderOptions.printed_eq_join (h : ¬options.Fails env) (hr : options.rendering env = .ok r)
    (hprinted : Path.components r.settings.filename = [.name "-"]) (files : FileTree) :
    options.printed env files = String.join (r.settings.schemas.map r.text) :=
  (render_agrees_of_printed h hr hprinted files).standardOutput

/-- **Lines of a printed run.** Its output are the texts of all documents in order. The lines of the
output are the lines of the documents in order, and so every line of a document is a line of the
output, if the document of every schema but the last one is closed; if one of them is not, the lines
of the output are other ones. -/
theorem printed_lines_apart_iff (h : ¬options.Fails env) (hr : options.rendering env = .ok r)
    (hprinted : Path.components r.settings.filename = [.name "-"]) (files : FileTree) :
    (∀ name ∈ r.settings.schemas, ∃ document schema, r.document name = .ok document ∧
      r.schema? name = some schema ∧ document.text = schema.text ∧ r.text name = schema.text) ∧
    options.printed env files = String.join (r.settings.schemas.map r.text) ∧
    (Text.lines (options.printed env files).toList = r.documentLines ↔
      ∀ name ∈ r.settings.schemas.dropLast, ∀ schema,
        r.schema? name = some schema → schema.EndsClosed) ∧
    (Text.lines (options.printed env files).toList = r.documentLines →
      ∀ name ∈ r.settings.schemas, ∀ line ∈ Text.lines (r.text name).toList,
        line ∈ Text.lines (options.printed env files).toList) := by
  obtain ⟨r', hr', hdrawn, -⟩ := render_report_of_not_fails h
  obtain rfl : r' = r := Except.ok.inj (hr'.symm.trans hr)
  have hdocuments : ∀ name ∈ r'.settings.schemas, ∃ document schema,
      r'.document name = .ok document ∧ r'.schema? name = some schema ∧
        document.text = schema.text ∧ r'.text name = schema.text := by
    intro name hname
    obtain ⟨document, hdocument⟩ := hdrawn name hname
    obtain ⟨schema, hschema⟩ := Rendering.text_of_schema? hdocument
    exact ⟨document, schema, hdocument, hschema⟩
  have houtput := RenderOptions.printed_eq_join h hr hprinted files
  refine ⟨hdocuments, houtput, ?_, fun hapart name hname line hline => ?_⟩
  · -- The output is the documents put together, and none of them is empty.
    have htexts : (options.printed env files).toList =
        (r'.settings.schemas.map fun name => (r'.text name).toList).flatten := by
      rw [houtput, String.toList_join, List.flatMap_map, List.flatMap_def]
    have hlines : r'.documentLines =
        (r'.settings.schemas.map fun name => (r'.text name).toList).flatMap Text.lines := by
      rw [Rendering.documentLines, List.flatMap_map]
    have hnonempty : ∀ text ∈ r'.settings.schemas.map fun name => (r'.text name).toList,
        text ≠ [] := by
      refine List.forall_mem_map.2 fun name hname => ?_
      obtain ⟨-, schema, -, -, -, htext⟩ := hdocuments name hname
      rw [htext]
      exact schema.text_ne_nil
    rw [hlines, htexts, Text.lines_flatten_eq_iff hnonempty, ← List.map_dropLast,
      List.forall_mem_map]
    -- The text of a document is that of its schema.
    refine forall_congr' fun name => forall_congr' fun hname => ?_
    obtain ⟨-, schema, -, hschema, -, htext⟩ := hdocuments name (List.dropLast_subset _ hname)
    rw [htext, schema.closed_text_iff, hschema]
    simp
  · -- If the lines are those of the documents, each line of a document is among them.
    rw [hapart]
    exact List.mem_flatMap.2 ⟨name, hname, hline⟩

end Printed

/-- Two schemas. The last table of the first one has a relation line if its key has a column. -/
def salesCatalog (keyColumns : List String) : Catalog where
  schemas :=
    [⟨"sales",
        [⟨"customers", [⟨"id", ⟨"bigint", none, false, false⟩, false, false, none⟩], []⟩,
          ⟨"orders", [⟨"customer_id", ⟨"bigint", none, false, false⟩, false, false, none⟩],
            [⟨.manyToOne, "orders", none, "customers",
              ⟨"orders_customer_fk", keyColumns, [.column "id"]⟩, none⟩]⟩]⟩,
      ⟨"crm", [⟨"users", [⟨"id", ⟨"bigint", none, false, false⟩, false, false, none⟩], []⟩]⟩]

/-- Options that print the documents of both schemas. -/
def salesOptions : RenderOptions where
  source := ⟨none, ["sales,crm"], none, none, none, none, none⟩
  filename := some "-"
  catalog := some "catalog.json"
  strict := false
  tables := none
  exclude := none

/-- A directory with the snapshot of the two schemas. -/
def salesFiles (keyColumns : List String) : FileTree where
  home := ["work"]
  files := [(["work", "catalog.json"], (salesCatalog keyColumns).toSnapshot)]

/-- There is no database. -/
def salesEnvironment (keyColumns : List String) : Environment :=
  (salesFiles keyColumns).environment fun _ => .error .connectionRefused

/-- What the options come to. -/
def salesRendering (keyColumns : List String) : Rendering where
  settings := ⟨["sales", "crm"], "localhost", 5432, none, none, none, "-", false, [], []⟩
  catalog := salesCatalog keyColumns
  filter := ⟨[], []⟩

/-- The options come to this rendering if the catalog is valid. -/
theorem salesOptions_rendering (keyColumns : List String)
    (hvalid : (salesCatalog keyColumns).validate = .ok ()) :
    salesOptions.rendering (salesEnvironment keyColumns) = .ok (salesRendering keyColumns) := by
  have hread : Catalog.ofSnapshot (salesCatalog keyColumns).toSnapshot =
      .ok (salesCatalog keyColumns) :=
    Catalog.ofSnapshot_toSnapshot_of_valid hvalid [] rfl (List.append_nil _).symm
  have hloaded : salesOptions.loaded (salesEnvironment keyColumns)
      (salesRendering keyColumns).settings = .ok (salesCatalog keyColumns) :=
    bind_eq_ok.2 ⟨_, rfl, mapError_eq_ok.2 hread⟩
  exact bind_eq_ok.2 ⟨_, rfl, bind_eq_ok.2 ⟨_, hloaded, rfl⟩⟩

/-- The run does not fail if the catalog is valid. -/
theorem salesOptions_not_fails (keyColumns : List String)
    (hvalid : (salesCatalog keyColumns).validate = .ok ()) :
    ¬salesOptions.Fails (salesEnvironment keyColumns) := by
  rw [RenderOptions.fails_iff, not_isError_iff]
  exact ⟨_, bind_eq_ok.2 ⟨_, salesOptions_rendering keyColumns hvalid, rfl⟩⟩

/-- What the run prints. -/
def salesOutput (keyColumns : List String) : String :=
  salesOptions.printed (salesEnvironment keyColumns) (salesFiles keyColumns)

/-- The documents are printed. -/
theorem salesRendering_printed (keyColumns : List String) :
    Path.components (salesRendering keyColumns).settings.filename = [.name "-"] := by
  change Path.components "-" = _
  decide

/-- Without a relation line in the first document, all lines stay apart. -/
theorem printed_lines_apart_iff_sales :
    ¬salesOptions.Fails (salesEnvironment []) ∧
    salesOptions.rendering (salesEnvironment []) = .ok (salesRendering []) ∧
    Path.components (salesRendering []).settings.filename = [.name "-"] ∧
    Text.lines (salesOutput []).toList = (salesRendering []).documentLines ∧
    "users [] \x7b ".toList ∈ Text.lines (salesOutput []).toList := by
  have hfails := salesOptions_not_fails [] rfl
  have hrendering := salesOptions_rendering [] rfl
  have hprinted := salesRendering_printed []
  obtain ⟨-, -, hiff, hlines⟩ := printed_lines_apart_iff hfails hrendering hprinted (salesFiles [])
  -- The last table of the first schema has no relation lines.
  have hapart := hiff.2 fun name hname schema hschema => by
    obtain rfl : name = "sales" := List.mem_singleton.1 hname
    obtain rfl : _ = schema := Option.some.inj hschema
    rintro table ⟨rfl⟩ line hline
    exact absurd hline (Option.not_mem_none _)
  have hheader : "users [] \x7b ".toList ∈ Text.lines ((salesRendering []).text "crm").toList := by
    decide
  exact ⟨hfails, hrendering, hprinted, hapart, hlines hapart "crm" (by decide) _ hheader⟩

/-- **A header that is no line.** The run succeeds and prints both documents, but the relation line
of the first one goes on with the header of the second one. -/
theorem glued_header :
    salesOptions.rendering (salesEnvironment ["customer_id"]) =
      .ok (salesRendering ["customer_id"]) ∧
    ¬salesOptions.Fails (salesEnvironment ["customer_id"]) ∧
    Path.components (salesRendering ["customer_id"]).settings.filename = [.name "-"] ∧
    "users [] \x7b ".toList ∈ Text.lines ((salesRendering ["customer_id"]).text "crm").toList ∧
    "users [] \x7b ".toList ∉ Text.lines (salesOutput ["customer_id"]).toList ∧
    "orders.customer_id > customers.idusers [] \x7b ".toList ∈
      Text.lines (salesOutput ["customer_id"]).toList ∧
    Text.lines (salesOutput ["customer_id"]).toList ≠
      (salesRendering ["customer_id"]).documentLines := by
  have hfails := salesOptions_not_fails ["customer_id"] rfl
  have hrendering := salesOptions_rendering ["customer_id"] rfl
  have hprinted := salesRendering_printed ["customer_id"]
  have houtput : salesOutput ["customer_id"] =
      String.join (["sales", "crm"].map (salesRendering ["customer_id"]).text) :=
    RenderOptions.printed_eq_join hfails hrendering hprinted _
  have hheader : "users [] \x7b ".toList ∈
      Text.lines ((salesRendering ["customer_id"]).text "crm").toList := by
    decide
  have hglued : "users [] \x7b ".toList ∉ Text.lines (salesOutput ["customer_id"]).toList := by
    rw [houtput]
    decide
  refine ⟨hrendering, hfails, hprinted, hheader, hglued, ?_, fun happart => hglued ?_⟩
  · rw [houtput]
    decide
  · rw [happart]
    exact List.mem_flatMap.2 ⟨"crm", by decide, hheader⟩

end SchemaDiagram
