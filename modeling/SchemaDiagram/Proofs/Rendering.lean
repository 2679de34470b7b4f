import SchemaDiagram.Proofs.AssembledCatalog
import SchemaDiagram.Proofs.Scripts

/-!
# The stages of a rendering run

A run of the command for diagrams has stages: settings, catalog, filter, then a document for each
schema. `RenderOptions.drawing` is these stages without what is told to the user, and
`RenderOptions.Fails` says that one of them has no result, with a case for each stage
(`RenderOptions.fails_iff`).

All stages come before the first output (`RenderOptions.prepare_comesTo`), so they decide what a
run prints and writes and how it ends (`render_sameDocuments_of_drawing`): there is no output if the
run fails (`render_report_of_fails`) and that of all documents, in order, if it does not
(`render_report_of_not_fails`).
-/

namespace SchemaDiagram

/-! ### Stages -/

def Settings.policy (s : Settings) : PrecisionPolicy := if s.strict then .strict else .lenient

/-- The catalog of a run: that of the snapshot if the options name one, else that of the
database. -/
def RenderOptions.loaded (env : Environment) (options : RenderOptions) (settings : Settings) :
    Except CommandError Catalog :=
  match options.catalog with
  | some path => do
    let text ← (env.textOf path).mapError (.unreadableSnapshot path)
    (Catalog.ofSnapshot text).mapError (.unusableSnapshot path)
  | none => do
    let connection ← settings.connection.mapError .settings
    let database ← (env.connect connection).mapError (.connection connection)
    let rows ← database.rows.mapError .load
    return Catalog.build rows

/-- **Rendering:** what the documents of a run depend on. -/
structure Rendering where
  settings : Settings
  catalog : Catalog
  filter : TableFilter

def RenderOptions.rendering (env : Environment) (options : RenderOptions) :
    Except CommandError Rendering := do
  let settings ← options.source.settings env options.values
  let catalog ← options.loaded env settings
  let filter ← (TableFilter.ofPatterns settings.tables settings.exclude).mapError .pattern
  return { settings, catalog, filter }

namespace Rendering

/-- The document of the filtered schema of this name. -/
def document (r : Rendering) (name : String) : Except CommandError Document := do
  let whole ← (r.catalog.requireSchema name).mapError .catalog
  ((r.filter.apply whole).document r.settings.policy).1.mapError (.diagram name)

/-- The text of this document, if it can be drawn. -/
def text (r : Rendering) (name : String) : String :=
  match r.document name with
  | .ok document => document.text
  | .error _ => ""

def draw (r : Rendering) (name : String) (target : OutputTarget) :
    Except CommandError DrawnSchema := do
  let whole ← (r.catalog.requireSchema name).mapError .catalog
  let document ← ((r.filter.apply whole).document r.settings.policy).1.mapError (.diagram name)
  return { schema := r.filter.apply whole, target, document }

end Rendering

/-- All stages up to the first output. -/
def RenderOptions.drawing (env : Environment) (options : RenderOptions) :
    Except CommandError (List DrawnSchema) := do
  let r ← options.rendering env
  r.settings.targets.mapM fun target => r.draw target.1 target.2

/-- **Failure** of a run before its first output. -/
inductive RenderOptions.Fails (env : Environment) (options : RenderOptions) : Prop
  | configuration (e : CommandError)
      (refused : options.source.settings env options.values = .error e)
  | loading (settings : Settings)
      (resolved : options.source.settings env options.values = .ok settings) (e : CommandError)
      (refused : options.loaded env settings = .error e)
  | pattern (settings : Settings)
      (resolved : options.source.settings env options.values = .ok settings)
      (e : TableFilter.PatternError)
      (refused : TableFilter.ofPatterns settings.tables settings.exclude = .error e)
  /-- One of the configured schemas is not in the catalog. -/
  | lookup (settings : Settings)
      (resolved : options.source.settings env options.values = .ok settings) (catalog : Catalog)
      (loaded : options.loaded env settings = .ok catalog) (name : String)
      (configured : name ∈ settings.schemas) (missing : catalog.schema? name = none)
  /-- One of the configured schemas cannot be drawn. -/
  | document (r : Rendering) (rendering : options.rendering env = .ok r) (name : String)
      (configured : name ∈ r.settings.schemas) (whole : Schema)
      (found : r.catalog.schema? name = some whole) (e : DiagramError)
      (refused : ((r.filter.apply whole).document r.settings.policy).1 = .error e)

variable {env : Environment} {options : RenderOptions}

/-- A schema is found where it is asked for just in case the catalog has it. -/
theorem Catalog.requireSchema_eq_ok {catalog : Catalog} {name : String} {schema : Schema} :
    catalog.requireSchema name = .ok schema ↔ catalog.schema? name = some schema := by
  unfold requireSchema
  cases catalog.schema? name with
  | none => exact iff_of_false (fun h => nomatch h) fun h => nomatch h
  | some found =>
    constructor
    · intro h
      exact congrArg some (Except.ok.inj h)
    · intro h
      exact congrArg Except.ok (Option.some.inj h)

/-- A schema is refused just in case the catalog has none of this name. -/
theorem Catalog.isError_requireSchema {catalog : Catalog} {name : String} :
    IsError (catalog.requireSchema name) ↔ catalog.schema? name = none := by
  unfold requireSchema
  cases catalog.schema? name with
  | none => exact iff_of_true (isError_error _) rfl
  | some found => exact iff_of_false (not_isError_ok found) fun h => nomatch h

namespace Rendering

variable {r : Rendering} {name : String} {target : OutputTarget}

/-- The text of a schema is that of its document. -/
theorem text_of_document {document : Document} (h : r.document name = .ok document) :
    r.text name = document.text := by
  rw [text, h]

/-- A drawn schema brings its document and its target. -/
theorem draw_eq_ok {drawn : DrawnSchema} (h : r.draw name target = .ok drawn) :
    r.document name = .ok drawn.document ∧ drawn.target = target := by
  obtain ⟨whole, hwhole, h⟩ := bind_eq_ok.1 h
  obtain ⟨document, hdocument, h⟩ := bind_eq_ok.1 h
  rw [← Except.ok.inj h]
  exact ⟨bind_eq_ok.2 ⟨whole, hwhole, hdocument⟩, rfl⟩

/-- A schema is not drawn if it is missing or its document is refused. -/
theorem isError_draw : IsError (r.draw name target) ↔ r.catalog.schema? name = none ∨
    ∃ whole, r.catalog.schema? name = some whole ∧
      IsError ((r.filter.apply whole).document r.settings.policy).1 := by
  rw [draw, isError_bind, isError_mapError, Catalog.isError_requireSchema]
  refine or_congr_right (exists_congr fun whole => ?_)
  rw [mapError_eq_ok, Catalog.requireSchema_eq_ok, isError_bind, isError_mapError]
  refine and_congr_right fun _ => or_iff_left ?_
  -- Once the document is there, nothing more can be refused.
  rintro ⟨document, -, h⟩
  exact not_isError_ok _ h

/-- The schemas are not all drawn if one of them is not. -/
theorem isError_drawAll :
    IsError (r.settings.targets.mapM fun target => r.draw target.1 target.2) ↔
      ∃ name ∈ r.settings.schemas, IsError (r.draw name (r.settings.target name)) := by
  rw [isError_mapM, Settings.targets]
  constructor
  · rintro ⟨target, htarget, h⟩
    obtain ⟨name, hname, rfl⟩ := List.mem_map.1 htarget
    exact ⟨name, hname, h⟩
  · rintro ⟨name, hname, h⟩
    exact ⟨(name, r.settings.target name), List.mem_map.2 ⟨name, hname, rfl⟩, h⟩

end Rendering

namespace RenderOptions

/-- A rendering that is there has come through all three stages. -/
theorem rendering_eq_ok {r : Rendering} (h : options.rendering env = .ok r) :
    options.source.settings env options.values = .ok r.settings ∧
      options.loaded env r.settings = .ok r.catalog ∧
      TableFilter.ofPatterns r.settings.tables r.settings.exclude = .ok r.filter := by
  obtain ⟨settings, hsettings, h⟩ := bind_eq_ok.1 h
  obtain ⟨catalog, hcatalog, h⟩ := bind_eq_ok.1 h
  obtain ⟨filter, hfilter, h⟩ := bind_eq_ok.1 h
  rw [← Except.ok.inj h]
  exact ⟨hsettings, hcatalog, mapError_eq_ok.1 hfilter⟩

/-- **The stages of a rendering** fail for the settings, or with these for the catalog or for the
patterns. -/
theorem isError_rendering : IsError (options.rendering env) ↔
    IsError (options.source.settings env options.values) ∨
    ∃ settings, options.source.settings env options.values = .ok settings ∧
      (IsError (options.loaded env settings) ∨
        IsError (TableFilter.ofPatterns settings.tables settings.exclude)) := by
  rw [rendering, isError_bind]
  refine or_congr_right (exists_congr fun settings => and_congr_right fun _ => ?_)
  constructor
  · intro h
    -- The catalog comes before the patterns, so its error hides theirs.
    rcases isError_bind.1 h with h | ⟨catalog, -, h⟩
    · exact .inl h
    · rcases isError_bind.1 h with h | ⟨filter, -, h⟩
      · exact .inr (isError_mapError.1 h)
      · exact absurd h (not_isError_ok _)
  · rintro (h | h)
    · exact isError_bind.2 (.inl h)
    · -- Loading may fail as well, before the patterns do.
      refine isError_bind_of_forall _ fun catalog => isError_bind.2 (.inl ?_)
      exact isError_mapError.2 h

/-- The same settings and the same catalog give the same drawing. -/
theorem drawing_congr {env' : Environment} {options' : RenderOptions}
    (hsettings : options.source.settings env options.values =
      options'.source.settings env' options'.values)
    (hloaded : ∀ settings, options'.source.settings env' options'.values = .ok settings →
      options.loaded env settings = options'.loaded env' settings) :
    options.drawing env = options'.drawing env' := by
  unfold drawing rendering
  rw [hsettings]
  cases hs : options'.source.settings env' options'.values with
  | error e => rfl
  | ok settings =>
    have hsame := hloaded settings hs
    simp only [bind, Except.bind, hsame]

/-- **A run fails** if its stages have no result, and only then. -/
theorem fails_iff : options.Fails env ↔ IsError (options.drawing env) := by
  -- A schema that cannot be drawn is enough, if the stages before the schemas went through.
  have hdrawing : ∀ r, options.rendering env = .ok r → ∀ name ∈ r.settings.schemas,
      IsError (r.draw name (r.settings.target name)) → IsError (options.drawing env) := by
    intro r hr name hname h
    exact isError_bind.2 (.inr ⟨r, hr, Rendering.isError_drawAll.2 ⟨name, hname, h⟩⟩)
  constructor
  -- Each way to fail is found in the stage that it names.
  · rintro (⟨e, h⟩ | ⟨s, hs, e, h⟩ | ⟨s, hs, e, h⟩ | ⟨s, hs, catalog, hc, name, hname, h⟩ |
      ⟨r, hr, name, hname, whole, hwhole, e, h⟩)
    · exact isError_bind.2 (.inl (isError_rendering.2 (.inl ⟨e, h⟩)))
    · exact isError_bind.2 (.inl (isError_rendering.2 (.inr ⟨s, hs, .inl ⟨e, h⟩⟩)))
    · exact isError_bind.2 (.inl (isError_rendering.2 (.inr ⟨s, hs, .inr ⟨e, h⟩⟩)))
    · -- The filter comes before the look-up, and it may be refused as well.
      by_cases hearlier : IsError (options.rendering env)
      · exact isError_bind.2 (.inl hearlier)
      · obtain ⟨r, hr⟩ := not_isError_iff.1 hearlier
        obtain ⟨hsettings, hcatalog, -⟩ := rendering_eq_ok hr
        obtain rfl : r.settings = s := Except.ok.inj (hsettings.symm.trans hs)
        obtain rfl : r.catalog = catalog := Except.ok.inj (hcatalog.symm.trans hc)
        exact hdrawing r hr name hname (Rendering.isError_draw.2 (.inl h))
    -- The rendering is given here, so the schemas are reached.
    · exact hdrawing r hr name hname (Rendering.isError_draw.2 (.inr ⟨whole, hwhole, e, h⟩))
  · -- An error of the drawing is one of the rendering or one of a single schema.
    intro h
    rcases isError_bind.1 h with h | ⟨r, hr, h⟩
    · rcases isError_rendering.1 h with ⟨e, h⟩ | ⟨s, hs, ⟨e, h⟩ | ⟨e, h⟩⟩
      · exact .configuration e h
      · exact .loading s hs e h
      · exact .pattern s hs e h
    · obtain ⟨name, hname, h⟩ := Rendering.isError_drawAll.1 h
      rcases Rendering.isError_draw.1 h with h | ⟨whole, hwhole, e, h⟩
      · obtain ⟨hsettings, hcatalog, -⟩ := rendering_eq_ok hr
        exact .lookup r.settings hsettings r.catalog hcatalog name hname h
      · exact .document r hr name hname whole hwhole e h

end RenderOptions

/-! ### The report of a run -/

/-- A target comes to what is drawn for it, with nothing but warnings on the way. -/
theorem drawTarget_comesTo (r : Rendering) (name : String) (target : OutputTarget) :
    (drawTarget r.settings r.filter r.catalog name target).ComesTo (r.draw name target) := by
  refine (Script.ComesTo.ofExcept _ _).bind fun whole => ?_
  refine (Script.ComesTo.warn _).andThen ?_
  exact (Script.ComesTo.ofExcept _ _).bind fun document => .pure _

/-- All targets come to what is drawn for them, one after the other. -/
theorem drawTargets_comesTo (r : Rendering) (targets : List (String × OutputTarget)) :
    (drawTargets r.settings r.filter r.catalog targets).ComesTo
      (targets.mapM fun target => r.draw target.1 target.2) := by
  induction targets with
  | nil => exact .pure []
  | cons target targets ih =>
    rw [List.mapM_cons, drawTargets]
    exact (drawTarget_comesTo r _ _).bind fun drawn => ih.bind fun more => .pure _

namespace RenderOptions

/-- The part of a run that loads the catalog. -/
def load (env : Environment) (options : RenderOptions) (settings : Settings) : Script Catalog :=
  match options.catalog with
  | some path => readCatalog env path
  | none => loadCatalog env settings

/-- The catalog of a run comes from a snapshot or from a database, without output in either case. -/
theorem load_comesTo (settings : Settings) :
    (options.load env settings).ComesTo (options.loaded env settings) := by
  unfold load loaded
  cases options.catalog with
  | some path =>
    refine (Script.ComesTo.tell _).andThen ?_
    exact (Script.ComesTo.ofExcept _ _).bind fun text => .ofExcept _ _
  | none =>
    refine (Script.ComesTo.ofExcept _ _).bind fun connection => ?_
    refine (Script.ComesTo.ofExcept _ _).bind fun database => ?_
    refine (Script.ComesTo.ofExcept _ _).bind fun rows => ?_
    -- The rows are collected one by one and make up the same catalog as all rows at once.
    rw [← Builder.build_ofRows rows]
    exact (Script.ComesTo.warn _).andThen (.pure _)

/-- The part of a run that comes before the first output. -/
def prepare (env : Environment) (options : RenderOptions) : Script (List DrawnSchema) := do
  let settings ← Script.ofExcept id (options.source.settings env options.values)
  let catalog ← options.load env settings
  let filter ← Script.ofExcept .pattern (TableFilter.ofPatterns settings.tables settings.exclude)
  drawTargets settings filter catalog settings.targets

/-- **A run in two parts:** everything that may fail, then the effects of all documents. -/
theorem run_eq : options.run env = options.prepare env >>= fun drawn =>
    (do for effect in drawn.flatMap (·.effects) do Script.effect effect : Script Unit) := by
  -- The two ways to load a catalog are part of the first one.
  unfold run prepare load renderCatalog
  cases options.catalog with
  | some path => simp only [bind_assoc]
  | none => simp only [bind_assoc]

/-- **The first part comes to the drawing** and has no output. -/
theorem prepare_comesTo (env : Environment) (options : RenderOptions) :
    (options.prepare env).ComesTo (options.drawing env) := by
  have hdrawing : options.drawing env = (do
      let settings ← (options.source.settings env options.values).mapError id
      let catalog ← options.loaded env settings
      let filter ← (TableFilter.ofPatterns settings.tables settings.exclude).mapError .pattern
      settings.targets.mapM fun target => Rendering.draw ⟨settings, catalog, filter⟩ target.1
        target.2) := by
    -- The errors of the settings are those of a command already.
    have hid : ∀ x : Except CommandError Settings, x.mapError id = x := fun x => by cases x <;> rfl
    rw [drawing, rendering, hid]
    simp only [bind_assoc, pure_bind]
  rw [hdrawing]
  -- Stage by stage, the script comes to what the stage computes.
  refine (Script.ComesTo.ofExcept _ _).bind fun settings => ?_
  refine (load_comesTo settings).bind fun catalog => ?_
  refine (Script.ComesTo.ofExcept _ _).bind fun filter => ?_
  exact drawTargets_comesTo ⟨settings, catalog, filter⟩ settings.targets

end RenderOptions

/-- A run whose drawing is refused reports this error and has no output. -/
theorem render_report_error {e : CommandError} (h : options.drawing env = .error e) :
    ((Command.render options).report env).error = some e ∧
      ((Command.render options).report env).effects.filter Effect.isOutput = [] := by
  have hprepare := RenderOptions.prepare_comesTo env options
  rw [h] at hprepare
  obtain ⟨told, htold, hresult⟩ := hprepare .empty
  -- The effects of the documents come after the error, so they are not reached.
  rw [Command.report_eq, Command.script, RenderOptions.run_eq, Script.result_bind_error hresult]
  exact ⟨rfl, htold⟩

/-- A run whose drawing succeeds reports no error, and its output is that of all documents. -/
theorem render_report_ok {drawn : List DrawnSchema} (h : options.drawing env = .ok drawn) :
    ((Command.render options).report env).error = none ∧
      ((Command.render options).report env).effects.filter Effect.isOutput =
        (drawn.flatMap (·.effects)).filter Effect.isOutput := by
  have hprepare := RenderOptions.prepare_comesTo env options
  rw [h] at hprepare
  obtain ⟨told, htold, hresult⟩ := hprepare .empty
  rw [Command.report_eq, Command.script, RenderOptions.run_eq, Script.result_bind_ok hresult,
    Script.result_forEffects]
  refine ⟨rfl, ?_⟩
  -- What has been told before the first output is no output.
  rw [← List.nil_append (List.filter _ (List.flatMap _ _)), ← htold]
  exact List.filter_append _ _

/-- **The drawing decides** what a run prints and writes and how it ends. -/
theorem render_sameDocuments_of_drawing {env' : Environment} {options' : RenderOptions}
    (h : options.drawing env = options'.drawing env') :
    ((Command.render options).report env).SameDocuments
      ((Command.render options').report env') := by
  -- Both runs take the same branch, and in each branch the drawing is all that counts.
  cases hdrawing : options.drawing env with
  | error e =>
    obtain ⟨herror, houtputs⟩ := render_report_error hdrawing
    obtain ⟨herror', houtputs'⟩ := render_report_error (h.symm.trans hdrawing)
    exact ⟨herror.trans herror'.symm, houtputs.trans houtputs'.symm⟩
  | ok drawn =>
    obtain ⟨herror, houtputs⟩ := render_report_ok hdrawing
    obtain ⟨herror', houtputs'⟩ := render_report_ok (h.symm.trans hdrawing)
    exact ⟨herror.trans herror'.symm, houtputs.trans houtputs'.symm⟩

/-- **A failing run** ends with an error and without output. -/
theorem render_report_of_fails (h : options.Fails env) :
    ∃ e, ((Command.render options).report env).error = some e ∧
      ((Command.render options).report env).effects.filter Effect.isOutput = [] := by
  obtain ⟨e, he⟩ := RenderOptions.fails_iff.1 h
  exact ⟨e, render_report_error he⟩

/-- The effect that brings a text to a target. -/
def OutputTarget.put (text : String) : OutputTarget → Effect
  | .standardOutput => .print text
  | .file path => .write path text

/-- What is said about a document is no output, but its text is. -/
theorem DrawnSchema.effects_filter (drawn : DrawnSchema) :
    drawn.effects.filter Effect.isOutput = [drawn.target.put drawn.document.text] := by
  unfold effects
  cases drawn.target with
  | standardOutput => rfl
  | file path => rfl

/-- **Any other run** ends without an error, and its output are the texts of all documents, each to
its target. -/
theorem render_report_of_not_fails (h : ¬options.Fails env) :
    ∃ r, options.rendering env = .ok r ∧
      (∀ name ∈ r.settings.schemas, ∃ document, r.document name = .ok document) ∧
      ((Command.render options).report env).error = none ∧
      ((Command.render options).report env).effects.filter Effect.isOutput =
        r.settings.schemas.map fun name => (r.settings.target name).put (r.text name) := by
  rw [RenderOptions.fails_iff, not_isError_iff] at h
  obtain ⟨drawn, hdrawing⟩ := h
  obtain ⟨herror, houtputs⟩ := render_report_ok hdrawing
  obtain ⟨r, hr, hdrawn⟩ := bind_eq_ok.1 hdrawing
  refine ⟨r, hr, fun name hname => ?_, herror, houtputs.trans ?_⟩
  · -- One schema without a document would have ended the drawing.
    have hdraw : ¬IsError (r.draw name (r.settings.target name)) := by
      intro h
      have hall := Rendering.isError_drawAll.2 ⟨name, hname, h⟩
      exact not_isError_ok drawn (hdrawn ▸ hall)
    obtain ⟨d, hd⟩ := not_isError_iff.1 hdraw
    exact ⟨d.document, (Rendering.draw_eq_ok hd).1⟩
  · -- Each drawn schema gives one output, with the text of its document.
    have hput := map_of_mapM_ok hdrawn (g := fun d => d.target.put d.document.text)
      (k := fun target => target.2.put (r.text target.1)) fun target d hd => by
        obtain ⟨hdocument, htarget⟩ := Rendering.draw_eq_ok hd
        rw [htarget, Rendering.text_of_document hdocument]
    rw [List.filter_flatMap, funext DrawnSchema.effects_filter, ← List.map_eq_flatMap, hput,
      Settings.targets, List.map_map]
    rfl

end SchemaDiagram
