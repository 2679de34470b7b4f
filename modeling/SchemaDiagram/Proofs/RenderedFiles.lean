import SchemaDiagram.Proofs.SchemaLists
import SchemaDiagram.Proofs.SchemaPaths
import SchemaDiagram.Proofs.SnapshotRun

/-!
# What a rendering run leaves behind

A run that fails at one of its stages leaves standard output empty and all files as they were. Any
other run prints all documents or writes each of them to the file of its schema, in the order of the
schemas, and touches no other file (`failing_render_writes_nothing`).

Several schemas have one file each, unless a slash stands in one of their names, where it separates
the parts of a path. So the condition under which each document is read back from its file is
`Settings.PlainNames` (`Rendering.Written.read_own`). Without it two paths that differ in their
slashes only lead to one file. That file holds the later one of the two documents, and the earlier
one is lost (`earlier_document_overwritten`).
-/

namespace SchemaDiagram

variable {env : Environment} {options : RenderOptions} {r : Rendering}

/-! ### Targets -/

/-- The path of the document of a schema, unless documents are printed. -/
def Settings.path (s : Settings) (schema : String) : String :=
  if s.schemas.length > 1 then schemaOutputPath s.filename schema else s.filename

/-- All documents are printed if the file name is a single dash. -/
theorem Settings.target_of_printed {s : Settings} (h : Path.components s.filename = [.name "-"])
    (schema : String) : s.target schema = .standardOutput := by
  rw [target, if_pos h]

/-- Otherwise all documents are written to their paths. -/
theorem Settings.target_of_not_printed {s : Settings}
    (h : Path.components s.filename ≠ [.name "-"]) (schema : String) :
    s.target schema = .file (s.path schema) := by
  -- Whether there are several schemas decides on the path in both definitions alike.
  rw [target, if_neg h, path]
  split <;> rfl

/-- The files that a run writes, with their contents: one for each schema, in order. -/
def Rendering.writes (r : Rendering) : List (String × String) :=
  r.settings.schemas.map fun name => (r.settings.path name, r.text name)

/-- **Written documents.** The path of each schema leads to a file, which holds the document of the
schema unless the path of a later one leads there as well. All other files are as before. -/
structure Rendering.Written (r : Rendering) (before after : FileTree) : Prop where
  held : ∀ earlier name later, r.settings.schemas = earlier ++ name :: later →
    ∃ place, after.LeadsTo (r.settings.path name) place ∧
      ((∀ other ∈ later, ¬after.LeadsTo (r.settings.path other) place) →
        after.file? place = some (r.text name))
  untouched : ∀ place, (∀ name ∈ r.settings.schemas,
    ¬after.LeadsTo (r.settings.path name) place) → after.file? place = before.file? place

/-- Files that have been written one after the other are those that are asked for. -/
theorem Rendering.written_of_writeAll {before after : FileTree}
    (h : before.writeAll r.writes = .ok after) : r.Written before after where
  held := by
    intro earlier name later hschemas
    -- The schemas are split at this one, and so are the writes.
    rw [writes, hschemas, List.map_append, List.map_cons] at h
    obtain ⟨place, hplace, hlast⟩ := FileTree.file?_writeAll_last h
    refine ⟨place, hplace, fun hlater => hlast ?_⟩
    exact List.forall_mem_map.2 hlater
  untouched := by
    intro place hplace
    exact FileTree.file?_writeAll_of_not_leadsTo h (List.forall_mem_map.2 hplace)

/-- **Plain names:** no schema whose name stands in the path of its document has a slash in it.
The name of a single schema does not stand there. -/
def Settings.PlainNames (s : Settings) : Prop :=
  1 < s.schemas.length → ∀ name ∈ s.schemas, '/' ∉ name.toList

/-- **Files of their own.** If the names are plain, the document of each schema is read back under
its path. -/
theorem Rendering.Written.read_own {before after : FileTree} (h : r.Written before after)
    (hr : options.rendering env = .ok r) (hplain : r.settings.PlainNames) :
    ∀ name ∈ r.settings.schemas, after.read (r.settings.path name) = .ok (r.text name) := by
  intro name hname
  -- No schema is listed twice.
  have hnodup : r.settings.schemas.Nodup := by
    obtain ⟨hsettings, -, -⟩ := RenderOptions.rendering_eq_ok hr
    obtain ⟨file, -, hresolve⟩ := bind_eq_ok.1 hsettings
    exact Settings.resolve_schemas_nodup (mapError_eq_ok.1 hresolve)
  obtain ⟨earlier, later, hsplit⟩ := List.append_of_mem hname
  obtain ⟨place, hplace, hfile⟩ := h.held earlier name later hsplit
  -- If a later path led to the same place, the two schemas would have the same name.
  refine FileTree.read_of_leadsTo hplace (hfile fun other hother hlead => ?_)
  -- With a later schema there are several, so the names stand in the paths.
  have hseveral : 1 < r.settings.schemas.length := by
    have hlater := List.length_pos_of_mem hother
    rw [hsplit, List.length_append, List.length_cons]
    omega
  have hslash := hplain hseveral
  rw [Settings.path, if_pos hseveral] at hlead hplace
  rw [hsplit] at hnodup hslash
  have hsame : name = other := schemaOutputPath_inj_of_leadsTo (hslash name (by simp))
    (hslash other (by simp [hother])) hplace hlead
  -- The schema does not stand behind itself in the list.
  have hfresh := (List.nodup_cons.1 (List.nodup_append.1 hnodup).2.1).1
  exact hfresh (hsame ▸ hother)

/-! ### Outcomes -/

/-- A failing run has the outcome of its error alone. -/
theorem render_agrees_of_fails (h : options.Fails env) (files : FileTree) :
    ∃ e, (((Command.render options).report env).perform files).Agrees
      ((Outcome.initial files).fail e) := by
  -- What is output before an error is nothing, so the error alone counts.
  obtain ⟨e, herror, houtputs⟩ := render_report_of_fails h
  have hagrees := ((Command.render options).report env).perform_agrees files
  rw [houtputs, herror] at hagrees
  exact ⟨e, hagrees⟩

/-- A run that does not fail has the outcome of its output. -/
theorem render_agrees_of_not_fails (h : ¬options.Fails env) (hr : options.rendering env = .ok r)
    (files : FileTree) :
    (((Command.render options).report env).perform files).Agrees
      ((Outcome.initial files).perform none
        (r.settings.schemas.map fun name => (r.settings.target name).put (r.text name))) := by
  obtain ⟨r', hr', -, herror, houtputs⟩ := render_report_of_not_fails h
  obtain rfl : r' = r := Except.ok.inj (hr'.symm.trans hr)
  have hagrees := ((Command.render options).report env).perform_agrees files
  rw [houtputs, herror] at hagrees
  exact hagrees

/-- **Printed documents** are joined on standard output, in the order of the schemas. -/
theorem render_agrees_of_printed (h : ¬options.Fails env) (hr : options.rendering env = .ok r)
    (hprinted : Path.components r.settings.filename = [.name "-"]) (files : FileTree) :
    (((Command.render options).report env).perform files).Agrees
      { Outcome.initial files with
        standardOutput := String.join (r.settings.schemas.map r.text) } := by
  have hagrees := render_agrees_of_not_fails h hr files
  -- Every target is standard output.
  have hputs : (r.settings.schemas.map fun name => (r.settings.target name).put (r.text name)) =
      (r.settings.schemas.map r.text).map .print := by
    rw [List.map_map]
    refine List.map_congr_left fun name _ => ?_
    rw [Settings.target_of_printed hprinted]
    rfl
  rw [hputs, Outcome.perform_prints] at hagrees
  exact ⟨hagrees.exitCode, hagrees.standardOutput.trans String.empty_append, hagrees.files⟩

/-- **Written documents** are written in the order of the schemas. -/
theorem render_agrees_of_written (h : ¬options.Fails env) (hr : options.rendering env = .ok r)
    (hfiles : Path.components r.settings.filename ≠ [.name "-"]) (files : FileTree) :
    (((Command.render options).report env).perform files).Agrees
      ((Outcome.initial files).perform none
        (r.writes.map fun write => .write write.1 write.2)) := by
  have hagrees := render_agrees_of_not_fails h hr files
  -- Every target is a file.
  have hputs : (r.settings.schemas.map fun name => (r.settings.target name).put (r.text name)) =
      r.writes.map fun write => .write write.1 write.2 := by
    rw [Rendering.writes, List.map_map]
    refine List.map_congr_left fun name _ => ?_
    rw [Settings.target_of_not_printed hfiles]
    rfl
  rw [hputs] at hagrees
  exact hagrees

/-- If the system takes all files, the run leaves them behind and nothing else. -/
theorem render_agrees_of_taken (h : ¬options.Fails env) (hr : options.rendering env = .ok r)
    (hfiles : Path.components r.settings.filename ≠ [.name "-"]) {files after : FileTree}
    (hwrites : files.writeAll r.writes = .ok after) :
    (((Command.render options).report env).perform files).Agrees (.initial after) := by
  have hinitial : (Outcome.initial files).files.writeAll r.writes = .ok after := hwrites
  have hagrees := render_agrees_of_written h hr hfiles files
  rw [Outcome.perform_writes_ok hinitial] at hagrees
  exact hagrees

/-- If the system refuses a file, the run ends with an error. -/
theorem render_of_refused (h : ¬options.Fails env) (hr : options.rendering env = .ok r)
    (hfiles : Path.components r.settings.filename ≠ [.name "-"]) {files : FileTree}
    {cause : SystemError} (hwrites : files.writeAll r.writes = .error cause) :
    (((Command.render options).report env).perform files).exitCode = 1 ∧
      (((Command.render options).report env).perform files).standardOutput = "" := by
  have hinitial : (Outcome.initial files).files.writeAll r.writes = .error cause := hwrites
  have hagrees := render_agrees_of_written h hr hfiles files
  obtain ⟨hexit, hstdout⟩ := Outcome.perform_writes_error hinitial
  exact ⟨hagrees.exitCode.trans hexit, hagrees.standardOutput.trans hstdout⟩

/-! ### Two schemas and their files -/

/-- Two schemas of these names, with a table each. -/
def pairCatalog (first second : String) : Catalog where
  schemas := [⟨first, [⟨"orders", [], []⟩]⟩, ⟨second, [⟨"refunds", [], []⟩]⟩]

/-- A directory with the snapshot of the two schemas and a directory for other documents. -/
def pairFiles (first second : String) : FileTree where
  home := ["work"]
  files := [(["work", "catalog.json"], (pairCatalog first second).toSnapshot),
    (["work", "schema.eu", "keep"], "")]

/-- There is no database. -/
def pairEnvironment (first second : String) : Environment :=
  (pairFiles first second).environment fun _ => .error .connectionRefused

/-- Options for the documents of these schemas, separated by commas, from the snapshot. -/
def pairOptions (schemas : String) : RenderOptions where
  source := ⟨none, [schemas], none, none, none, none, none⟩
  filename := some "schema.dsl"
  catalog := some "catalog.json"
  strict := false
  tables := none
  exclude := none

/-- What these options come to for the two schemas. -/
def pairRendering (first second : String) : Rendering where
  settings := ⟨[first, second], "localhost", 5432, none, none, none, "schema.dsl", false, [], []⟩
  catalog := pairCatalog first second
  filter := ⟨[], []⟩

/-- What the run over the two schemas leaves behind. -/
def pairOutcome (first second schemas : String) : Outcome :=
  ((Command.render (pairOptions schemas)).report (pairEnvironment first second)).perform
    (pairFiles first second)

section Pair

variable {first second schemas : String}

/-- The catalog is read from the snapshot whatever the settings are. -/
theorem pairOptions_loaded (hvalid : (pairCatalog first second).validate = .ok ())
    (settings : Settings) :
    (pairOptions schemas).loaded (pairEnvironment first second) settings =
      .ok (pairCatalog first second) := by
  have hread : Catalog.ofSnapshot (pairCatalog first second).toSnapshot =
      .ok (pairCatalog first second) :=
    Catalog.ofSnapshot_toSnapshot_of_valid hvalid [] rfl (List.append_nil _).symm
  exact bind_eq_ok.2 ⟨_, rfl, mapError_eq_ok.2 hread⟩

theorem pairOptions_rendering (hvalid : (pairCatalog first second).validate = .ok ())
    (hsettings : (pairOptions schemas).source.settings (pairEnvironment first second)
      (pairOptions schemas).values = .ok (pairRendering first second).settings) :
    (pairOptions schemas).rendering (pairEnvironment first second) =
      .ok (pairRendering first second) :=
  bind_eq_ok.2 ⟨_, hsettings, bind_eq_ok.2 ⟨_, pairOptions_loaded hvalid _, rfl⟩⟩

/-- The run does not fail if the documents of both schemas are drawn. -/
theorem pairOptions_not_fails
    (hr : (pairOptions schemas).rendering (pairEnvironment first second) =
      .ok (pairRendering first second)) {drawn : List DrawnSchema}
    (hdrawn : ((pairRendering first second).settings.targets.mapM fun target =>
      (pairRendering first second).draw target.1 target.2) = .ok drawn) :
    ¬(pairOptions schemas).Fails (pairEnvironment first second) := by
  rw [RenderOptions.fails_iff, not_isError_iff]
  exact ⟨drawn, bind_eq_ok.2 ⟨_, hr, hdrawn⟩⟩

end Pair

/-- Names without slashes, listed in one text. -/
theorem plainOptions_rendering :
    (pairOptions "sales,crm").rendering (pairEnvironment "sales" "crm") =
      .ok (pairRendering "sales" "crm") :=
  pairOptions_rendering rfl rfl

theorem plainOptions_not_fails :
    ¬(pairOptions "sales,crm").Fails (pairEnvironment "sales" "crm") :=
  pairOptions_not_fails plainOptions_rendering rfl

/-- No schema is called `hr`. -/
theorem hrOptions_fails : (pairOptions "sales,hr").Fails (pairEnvironment "sales" "crm") :=
  .lookup (pairRendering "sales" "hr").settings rfl (pairCatalog "sales" "crm")
    (pairOptions_loaded rfl _) "hr" (by decide) rfl

theorem twinOptions_rendering :
    (pairOptions "eu//sales,eu/sales").rendering (pairEnvironment "eu//sales" "eu/sales") =
      .ok (pairRendering "eu//sales" "eu/sales") :=
  pairOptions_rendering rfl rfl

theorem twinOptions_not_fails :
    ¬(pairOptions "eu//sales,eu/sales").Fails (pairEnvironment "eu//sales" "eu/sales") :=
  pairOptions_not_fails twinOptions_rendering rfl

/-- The two paths differ as texts, so they are two targets. -/
theorem twinRendering_targets : (pairRendering "eu//sales" "eu/sales").settings.targets =
    [("eu//sales", .file "schema.eu//sales.dsl"), ("eu/sales", .file "schema.eu/sales.dsl")] :=
  rfl

/-- **Two paths, one file.** The system takes both documents, and under the path of the first one
the second one is read. -/
theorem twinFiles_writeAll : ∃ after,
    (pairFiles "eu//sales" "eu/sales").writeAll (pairRendering "eu//sales" "eu/sales").writes =
      .ok after ∧
    after.read "schema.eu//sales.dsl" =
      .ok ((pairRendering "eu//sales" "eu/sales").text "eu/sales") :=
  ⟨_, rfl, rfl⟩

/-- The two documents are different, for the tables have different names. -/
theorem twinRendering_texts :
    (pairRendering "eu//sales" "eu/sales").text "eu//sales" ≠
      (pairRendering "eu//sales" "eu/sales").text "eu/sales" := by
  decide

/-! ### All documents or none -/

/-- **All or nothing.** If one of the stages of a run fails, standard output is empty and no file
has changed. Otherwise all documents are drawn, and the output of the run are their texts in the
order of the schemas, each to its target. If they are printed, no file has changed. If they are
written, standard output is empty, and unless the system refuses a file, each file holds the last
document that goes there and no other file has changed. That document is the one of the schema
whose file it is if the names are plain. -/
theorem failing_render_writes_nothing (env : Environment) (options : RenderOptions)
    (files : FileTree) :
    let report := (Command.render options).report env
    let outcome := report.perform files
    (options.Fails env →
      outcome.exitCode = 1 ∧ outcome.standardOutput = "" ∧ outcome.files = files) ∧
    (¬options.Fails env → ∃ r, options.rendering env = .ok r ∧
      (∀ name ∈ r.settings.schemas, ∃ document, r.document name = .ok document) ∧
      report.error = none ∧
      report.effects.filter Effect.isOutput =
        (r.settings.schemas.map fun name => (r.settings.target name).put (r.text name)) ∧
      (Path.components r.settings.filename = [.name "-"] → outcome.exitCode = 0 ∧
        outcome.standardOutput = String.join (r.settings.schemas.map r.text) ∧
        outcome.files = files) ∧
      (Path.components r.settings.filename ≠ [.name "-"] → outcome.standardOutput = "" ∧
        (∀ cause, files.writeAll r.writes = .error cause → outcome.exitCode = 1) ∧
        ∀ after, files.writeAll r.writes = .ok after →
          outcome.exitCode = 0 ∧ outcome.files = after ∧ r.Written files after ∧
          (r.settings.PlainNames → ∀ name ∈ r.settings.schemas,
            outcome.files.read (r.settings.path name) = .ok (r.text name)))) := by
  intro report outcome
  refine ⟨fun hfails => ?_, fun hfails => ?_⟩
  · -- Nothing is output before the error.
    obtain ⟨e, hagrees⟩ := render_agrees_of_fails hfails files
    exact ⟨hagrees.exitCode, hagrees.standardOutput, hagrees.files⟩
  · obtain ⟨r, hr, hdocuments, herror, houtputs⟩ := render_report_of_not_fails hfails
    refine ⟨r, hr, hdocuments, herror, houtputs, fun hprinted => ?_, fun hfiles => ?_⟩
    · -- Printing leaves the files alone.
      have hagrees := render_agrees_of_printed hfails hr hprinted files
      exact ⟨hagrees.exitCode, hagrees.standardOutput, hagrees.files⟩
    · -- The system takes all files or refuses one of them.
      cases hwrites : files.writeAll r.writes with
      | error cause =>
        -- A refused file ends the run, and what has been written so far is not spoken of.
        obtain ⟨hexit, hstdout⟩ := render_of_refused hfails hr hfiles hwrites
        exact ⟨hstdout, fun _ _ => hexit, fun after hafter => nomatch hafter⟩
      | ok written =>
        have hagrees := render_agrees_of_taken hfails hr hfiles hwrites
        have hwritten : r.Written files written := Rendering.written_of_writeAll hwrites
        -- All files are taken, and they hold what has been written.
        refine ⟨hagrees.standardOutput, fun cause hcause => (nomatch hcause), ?_⟩
        intro after hafter
        obtain rfl : written = after := Except.ok.inj hafter
        refine ⟨hagrees.exitCode, hagrees.files, hwritten, fun hplain => ?_⟩
        have hfinal : outcome.files = written := hagrees.files
        rw [hfinal]
        exact hwritten.read_own hr hplain

/-- A run over two schemas with plain names, each of whose documents is in a file of its own, and a
run that leaves no file behind since its second schema is missing. -/
theorem failing_render_writes_nothing_sales :
    ((pairOptions "sales,hr").Fails (pairEnvironment "sales" "crm") ∧
      (pairOutcome "sales" "crm" "sales,hr").exitCode = 1 ∧
      (pairOutcome "sales" "crm" "sales,hr").files = pairFiles "sales" "crm") ∧
    ¬(pairOptions "sales,crm").Fails (pairEnvironment "sales" "crm") ∧
    (pairRendering "sales" "crm").settings.PlainNames ∧
    (pairOutcome "sales" "crm" "sales,crm").exitCode = 0 ∧
    (pairOutcome "sales" "crm" "sales,crm").files.read "schema.sales.dsl" =
      .ok ((pairRendering "sales" "crm").text "sales") ∧
    (pairOutcome "sales" "crm" "sales,crm").files.read "schema.crm.dsl" =
      .ok ((pairRendering "sales" "crm").text "crm") := by
  obtain ⟨hfailing, -⟩ := failing_render_writes_nothing (pairEnvironment "sales" "crm")
    (pairOptions "sales,hr") (pairFiles "sales" "crm")
  obtain ⟨hexit, -, hfiles⟩ := hfailing hrOptions_fails
  obtain ⟨-, hsucceeding⟩ := failing_render_writes_nothing (pairEnvironment "sales" "crm")
    (pairOptions "sales,crm") (pairFiles "sales" "crm")
  obtain ⟨r, hr, -, -, -, -, hwritten⟩ := hsucceeding plainOptions_not_fails
  obtain rfl : r = pairRendering "sales" "crm" :=
    Except.ok.inj (hr.symm.trans plainOptions_rendering)
  -- The file name is no dash, so the documents are written.
  obtain ⟨-, -, htaken⟩ := hwritten (by decide)
  obtain ⟨hexit', -, -, hread⟩ := htaken _ rfl
  have hplain : (pairRendering "sales" "crm").settings.PlainNames := fun _ => by decide
  exact ⟨⟨hrOptions_fails, hexit, hfiles⟩, plainOptions_not_fails, hplain, hexit',
    hread hplain "sales" (by decide), hread hplain "crm" (by decide)⟩

/-- **A lost document.** The names of the two schemas differ in their slashes only. The run succeeds
and has written both documents, but the path of the first one leads to the file of the second
one. -/
theorem earlier_document_overwritten :
    let r := pairRendering "eu//sales" "eu/sales"
    let outcome := pairOutcome "eu//sales" "eu/sales" "eu//sales,eu/sales"
    (pairOptions "eu//sales,eu/sales").rendering (pairEnvironment "eu//sales" "eu/sales") =
      .ok r ∧
    ¬(pairOptions "eu//sales,eu/sales").Fails (pairEnvironment "eu//sales" "eu/sales") ∧
    outcome.exitCode = 0 ∧
    r.settings.targets = [("eu//sales", .file "schema.eu//sales.dsl"),
      ("eu/sales", .file "schema.eu/sales.dsl")] ∧
    ∃ document, r.document "eu//sales" = .ok document ∧
      outcome.files.read "schema.eu//sales.dsl" ≠ .ok document.text := by
  intro r outcome
  obtain ⟨after, hwrites, hread⟩ := twinFiles_writeAll
  have hagrees : outcome.Agrees (.initial after) := render_agrees_of_taken
    twinOptions_not_fails twinOptions_rendering (by decide) hwrites
  obtain ⟨document, hdocument⟩ : ∃ document, r.document "eu//sales" = .ok document := ⟨_, rfl⟩
  refine ⟨twinOptions_rendering, twinOptions_not_fails, hagrees.exitCode, twinRendering_targets,
    document, hdocument, ?_⟩
  -- What is read under the first path is the second document.
  have hfile : outcome.files.read "schema.eu//sales.dsl" = .ok (r.text "eu/sales") := by
    rw [hagrees.files]
    exact hread
  rw [hfile, ← Rendering.text_of_document hdocument]
  intro h
  exact twinRendering_texts (Except.ok.inj h).symm

end SchemaDiagram
