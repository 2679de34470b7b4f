import SchemaDiagram.Proofs.Files
import SchemaDiagram.Proofs.LoadedRows
import SchemaDiagram.Proofs.Rendering
import SchemaDiagram.Proofs.SnapshotRoundTrip

/-!
# Rendering from a snapshot and from the database

A catalog may come straight from the database or from a snapshot that was written before. Both
ways lead to the same documents (`replay_agrees_with_live_run`):

* the options of the two commands name the same schemas of the same database, whatever else the
  command for diagrams sets (`settings_source`);
* the loaded catalog is valid, so its snapshot is accepted and gives the catalog back;
* settings and catalog decide what a rendering run prints and writes, wherever the catalog comes
  from (`RenderOptions.drawing_congr`).
-/

namespace SchemaDiagram

variable {env env' : Environment} {source : SourceOptions} {rows : List Row}

/-! ### The same source -/

/-- **Same source:** two layers that name the same schemas of the same database. -/
structure SettingValues.SameSource (a b : SettingValues) : Prop where
  schema : a.schema = b.schema
  host : a.host = b.host
  port : a.port = b.port
  database : a.database = b.database
  user : a.user = b.user
  password : a.password = b.password

/-- Connection and schemas come from the values that name a source. -/
theorem SettingValues.SameSource.resolve {a b : SettingValues} (h : a.SameSource b)
    {s s' : Settings} (ha : Settings.resolve a = .ok s) (hb : Settings.resolve b = .ok s') :
    s.connection = s'.connection ∧ s.schemas = s'.schemas := by
  unfold Settings.resolve at ha hb
  dsimp only at ha hb
  -- Both layers have been resolved, so neither file name was refused.
  split at ha
  · nomatch ha
  · split at hb
    · nomatch hb
    · rw [← Except.ok.inj ha, ← Except.ok.inj hb, Settings.connection, Settings.connection]
      dsimp only
      rw [h.schema, h.host, h.port, h.database, h.user, h.password]
      exact ⟨rfl, rfl⟩

/-- **The source of both commands.** The values that only the command for diagrams sets change
nothing about it. -/
theorem settings_source (hfile : source.fileValues env' = source.fileValues env)
    (options : RenderOptions) {s s' : Settings} (h : source.settings env .empty = .ok s)
    (h' : source.settings env' options.values = .ok s') :
    s'.connection = s.connection ∧ s'.schemas = s.schemas := by
  obtain ⟨file, hf, h⟩ := bind_eq_ok.1 h
  obtain ⟨file', hf', h'⟩ := bind_eq_ok.1 h'
  -- Both runs read the same configuration file.
  obtain rfl : file' = file := Except.ok.inj (hf'.symm.trans (hfile.trans hf))
  have hsource : ((file'.overlay source.values).overlay options.values).SameSource
      ((file'.overlay source.values).overlay .empty) := ⟨rfl, rfl, rfl, rfl, rfl, rfl⟩
  exact hsource.resolve (mapError_eq_ok.1 h') (mapError_eq_ok.1 h)

/-! ### Catalogs from both places -/

/-- **Loading succeeds** with these rows. -/
def SourceOptions.Loads (env : Environment) (source : SourceOptions) (rows : List Row) : Prop :=
  ∃ settings connection database, source.settings env .empty = .ok settings ∧
    settings.connection = .ok connection ∧ env.connect connection = .ok database ∧
    database.rows = .ok rows

section Load

variable {settings : Settings} {connection : Connection} {database : Database}

/-- After the connection, loading comes down to reading the rows. -/
theorem loadCatalog_result_rows (hconnection : settings.connection = .ok connection)
    (hdatabase : env.connect connection = .ok database) (journal : Journal) :
    (loadCatalog env settings).result journal =
      (Script.ofExcept .load database.rows >>= fun rows => do
        Script.warn (buildWarnings rows)
        return Catalog.build rows : Script Catalog).result journal := by
  -- The two steps that need no rows go through and leave no trace.
  have hc : (Script.ofExcept .settings settings.connection).result journal =
      (.ok connection, journal) := by rw [Script.result_ofExcept, hconnection]; rfl
  have hd : (Script.ofExcept (.connection connection) (env.connect connection)).result journal =
      (.ok database, journal) := by rw [Script.result_ofExcept, hdatabase]; rfl
  rw [loadCatalog, Script.result_bind_ok hc, Script.result_bind_ok hd]
  simp only [Builder.warnings_ofRows, Builder.build_ofRows]

/-- **Loading** gives the catalog of the rows, with the warnings about them. -/
theorem loadCatalog_result (hconnection : settings.connection = .ok connection)
    (hdatabase : env.connect connection = .ok database) (hrows : database.rows = .ok rows)
    (journal : Journal) : (loadCatalog env settings).result journal =
      (.ok (Catalog.build rows), journal.append ⟨[], buildWarnings rows⟩) := by
  have hr : (Script.ofExcept .load database.rows).result journal = (.ok rows, journal) := by
    rw [Script.result_ofExcept, hrows]; rfl
  rw [loadCatalog_result_rows hconnection hdatabase, Script.result_bind_ok hr,
    Script.result_bind_ok (Script.result_warn _ journal), Script.result_pure]

/-- An obstacle ends the loading, and nothing has been done before it. -/
theorem loadCatalog_result_error (hconnection : settings.connection = .ok connection)
    (hdatabase : env.connect connection = .ok database) {e : LoadError}
    (hrows : database.rows = .error e) (journal : Journal) :
    (loadCatalog env settings).result journal = (.error (.load e), journal) := by
  have hr : (Script.ofExcept .load database.rows).result journal = (.error (.load e), journal) := by
    rw [Script.result_ofExcept, hrows]; rfl
  rw [loadCatalog_result_rows hconnection hdatabase, Script.result_bind_error hr]

end Load

/-! ### The snapshot that is written -/

/-- **The report of a snapshot run** that loads these rows: the effects of the snapshot after the
warnings, without an error. -/
theorem snapshot_report (h : source.Loads env rows) (output : Option String) :
    (Command.snapshot source output).report env =
      ⟨snapshotEffects (Catalog.build rows) output, buildWarnings rows, none⟩ := by
  obtain ⟨settings, connection, database, hsettings, hconnection, hdatabase, hrows⟩ := h
  have hs : (Script.ofExcept id (source.settings env .empty)).result .empty =
      (.ok settings, .empty) := by rw [Script.result_ofExcept, hsettings]; rfl
  have hload := loadCatalog_result hconnection hdatabase hrows .empty
  rw [Command.report_eq, Command.script, runSnapshot, Script.result_bind_ok hs,
    Script.result_bind_ok hload, Script.result_forEffects]
  simp [Report.ofResult, Journal.append, Journal.empty]

/-- **Saved.** The run succeeded, and the tree has its snapshot under the path: where the run wrote
it or, if it was printed, in a file with what was printed. -/
def Outcome.Saved (outcome : Outcome) (output : Option String) (after : FileTree)
    (path : String) : Prop :=
  outcome.exitCode = 0 ∧ match output with
    | some file => path = file ∧ after = outcome.files
    | none => after.read path = .ok outcome.standardOutput

/-- The text of a saved snapshot, but for white space at its end. -/
theorem saved_text {catalog : Catalog} {warnings : List Warning} {output : Option String}
    {files after : FileTree} {path : String}
    (h : ((Report.mk (snapshotEffects catalog output) warnings none).perform files).Saved
      output after path) :
    ∃ text space, after.read path = .ok text ∧ Json.skipSpace space = [] ∧
      text.toList = catalog.toSnapshot.toList ++ space := by
  obtain ⟨hexit, h⟩ := h
  -- A snapshot that was printed has been put into a file since, one that was written is where it
  -- was written.
  cases output with
  | none =>
    -- What has been printed ends with a line feed.
    refine ⟨_, ['\n'], h, rfl, ?_⟩
    change ("" ++ (catalog.toSnapshot ++ "\n")).toList = _
    rw [String.empty_append, String.toList_append]
    rfl
  | some file =>
    obtain ⟨rfl, rfl⟩ := h
    refine ⟨catalog.toSnapshot, [], ?_, rfl, (List.append_nil _).symm⟩
    cases hwrite : (Outcome.initial files).files.write path catalog.toSnapshot with
    | error cause =>
      -- The run would have failed.
      rw [Report.perform, snapshotEffects, List.cons_append,
        Outcome.perform_write_error hwrite] at hexit
      exact absurd hexit Nat.one_ne_zero
    | ok written =>
      rw [Report.perform, snapshotEffects, List.cons_append, Outcome.perform_write_ok hwrite]
      exact FileTree.read_write hwrite

/-! ### Rendering -/

/-- **A saved snapshot is accepted** and gives the catalog back. -/
theorem ofSnapshot_saved (hvalid : (Catalog.build rows).Valid) (hload : source.Loads env rows)
    {output : Option String} {files after : FileTree} {path : String}
    (hsaved : (((Command.snapshot source output).report env).perform files).Saved
      output after path) :
    ∃ text, after.read path = .ok text ∧ Catalog.ofSnapshot text = .ok (Catalog.build rows) := by
  rw [snapshot_report hload] at hsaved
  obtain ⟨text, space, hread, hspace, htext⟩ := saved_text hsaved
  exact ⟨text, hread,
    Catalog.ofSnapshot_toSnapshot_of_valid (Catalog.validate_eq_ok.2 hvalid) space hspace htext⟩

/-- **The two ways to a document.** Where the snapshot of the loaded rows is read and the database
gives the same rows, rendering prints and writes the same and ends with the same error. -/
theorem render_sameDocuments {options : RenderOptions} {path text : String}
    (hload : options.source.Loads env rows)
    (hfile : options.source.fileValues env' = options.source.fileValues env)
    (htext : env'.textOf path = .ok text)
    (hread : Catalog.ofSnapshot text = .ok (Catalog.build rows)) :
    ((Command.render { options with catalog := some path }).report env').SameDocuments
      ((Command.render { options with catalog := none }).report env) := by
  obtain ⟨settings, connection, database, hsettings, hconnection, hdatabase, hrows⟩ := hload
  -- The settings of the two runs are the same, since the options are and the configuration files
  -- agree.
  have hsame : options.source.settings env' options.values =
      options.source.settings env options.values := by
    rw [SourceOptions.settings, SourceOptions.settings, hfile]
  -- By these settings one run reads the snapshot and the other one the database, and both find the
  -- catalog of the rows.
  refine render_sameDocuments_of_drawing (RenderOptions.drawing_congr hsame fun s hs => ?_)
  have hs' : s.connection = .ok connection :=
    (settings_source rfl options hsettings hs).1.trans hconnection
  have hreplay : RenderOptions.loaded env' { options with catalog := some path } s =
      .ok (Catalog.build rows) :=
    bind_eq_ok.2 ⟨text, mapError_eq_ok.2 htext, mapError_eq_ok.2 hread⟩
  have hlive : RenderOptions.loaded env { options with catalog := none } s =
      .ok (Catalog.build rows) := by
    refine bind_eq_ok.2 ⟨connection, mapError_eq_ok.2 hs', ?_⟩
    refine bind_eq_ok.2 ⟨database, mapError_eq_ok.2 hdatabase, ?_⟩
    exact bind_eq_ok.2 ⟨rows, mapError_eq_ok.2 hrows, rfl⟩
  exact hreplay.trans hlive.symm

/-- The environment of a command that is run in a file tree. -/
def FileTree.environment (files : FileTree) (connect : Connection → Except SystemError Database) :
    Environment :=
  ⟨files.read, connect⟩

/-- **Replay.** Let a database load, with the names of the columns of each table apart and the
columns of its keys given, and let the snapshot command save its catalog without touching what
the configuration file says. Then the snapshot is never rejected, and rendering it prints, writes
and reports the same as rendering the database with the same options, in any file tree. -/
theorem replay_agrees_with_live_run (connect : Connection → Except SystemError Database)
    (options : RenderOptions) (output : Option String) (rows : List Row) (files after : FileTree)
    (path : String) (hload : options.source.Loads (files.environment connect) rows)
    (hdistinct : ColumnsDistinct rows) (hkeys : KeyColumnsGiven rows)
    (hsaved : (((Command.snapshot options.source output).report
      (files.environment connect)).perform files).Saved output after path)
    (hconfig : options.source.fileValues (after.environment connect) =
      options.source.fileValues (files.environment connect)) :
    (∃ text, after.read path = .ok text ∧ Catalog.ofSnapshot text = .ok (Catalog.build rows)) ∧
    (∀ s s', options.source.settings (files.environment connect) .empty = .ok s →
      options.source.settings (after.environment connect) options.values = .ok s' →
        s'.connection = s.connection ∧ s'.schemas = s.schemas) ∧
    let replay := (Command.render { options with catalog := some path }).report
      (after.environment connect)
    let live := (Command.render { options with catalog := none }).report (files.environment connect)
    replay.SameDocuments live ∧ ∀ tree, (replay.perform tree).Agrees (live.perform tree) := by
  -- Validity is what lets the snapshot be accepted, so it is derived from the rows first.
  have hvalid : (Catalog.build rows).Valid := by
    obtain ⟨-, -, database, -, -, -, hrows⟩ := hload
    exact Database.loaded_valid hrows hdistinct hkeys
  obtain ⟨text, htext, hread⟩ := ofSnapshot_saved hvalid hload hsaved
  have hsame := render_sameDocuments hload hconfig htext hread
  exact ⟨⟨text, htext, hread⟩, fun s s' h h' => settings_source hconfig options h h', hsame,
    hsame.perform⟩

/-- A database with one table, whose key leads back to it. -/
def staffDatabase : Database where
  schemas := [⟨some "public"⟩]
  tables := [⟨some "public", some "staff"⟩]
  columns :=
    [⟨some "public", some "staff", some "id", some 1, some "int4", some "integer", some (-1),
        some true⟩,
      ⟨some "public", some "staff", some "boss", some 2, some "int4", some "integer", some (-1),
        some false⟩]
  primaryKeys := [⟨some "public", some "staff", some "id"⟩]
  foreignKeys :=
    [⟨some "public", some "staff", some "boss_key", some "public", some "staff", some "boss",
        some 1⟩]
  indexEntries := [⟨some "public", some "staff", some "boss_key", some 1, some "id", none⟩]
  refused := none

/-- The rows of that database. -/
def staffRows : List Row :=
  [.schema "public", .table "public" "staff",
    .column ⟨"public", "staff", "id", 1, .resolve "int4" "integer", true, none⟩,
    .column ⟨"public", "staff", "boss", 2, .resolve "int4" "integer", false, none⟩,
    .primaryKey "public" "staff" "id",
    .foreignKey ⟨"public", "staff", "boss_key", "public", "staff", "boss", 1⟩,
    .indexEntry ⟨"public", "staff", "boss_key", 1, .column "id"⟩]

/-- Options that name the database and nothing else. -/
def staffOptions : RenderOptions where
  source := ⟨none, [], none, none, some "company", some "reader", some "secret"⟩
  filename := some "staff.dsl"
  catalog := none
  strict := true
  tables := none
  exclude := none

/-- The snapshot of the staff, written in an empty tree, replays the run that reads the
database. -/
theorem replay_agrees_with_live_run_staff :
    let connect : Connection → Except SystemError Database := fun _ => .ok staffDatabase
    let files : FileTree := ⟨["work"], []⟩
    let after := (((Command.snapshot staffOptions.source (some "staff.json")).report
      (files.environment connect)).perform files).files
    (∃ text, after.read "staff.json" = .ok text ∧
      Catalog.ofSnapshot text = .ok (Catalog.build staffRows)) ∧
    ((Command.render { staffOptions with catalog := some "staff.json" }).report
      (after.environment connect)).SameDocuments
        ((Command.render staffOptions).report (files.environment connect)) := by
  intro connect files after
  have hload : staffOptions.source.Loads (files.environment connect) staffRows :=
    ⟨_, _, staffDatabase, rfl, rfl, rfl, rfl⟩
  -- The two columns have different names, in the only table as well as over all tables.
  have hdistinct : ColumnsDistinct staffRows := by
    intro ref
    have hall : ((staffRows.filterMap Row.column?).map (·.name)).Nodup := by decide
    exact hall.sublist ((List.filter_sublist.filterMap _).map _)
  -- There is one key, and its only column is among the rows.
  have hkeys : KeyColumnsGiven staffRows := by
    intro row hrow
    obtain rfl : row = ⟨"public", "staff", "boss_key", "public", "staff", "boss", 1⟩ := by
      simpa [staffRows] using hrow
    exact ⟨⟨"public", "staff", "boss", 2, .resolve "int4" "integer", false, none⟩,
      by simp [staffRows], rfl, rfl⟩
  have hsaved : (((Command.snapshot staffOptions.source (some "staff.json")).report
      (files.environment connect)).perform files).Saved (some "staff.json") after "staff.json" := by
    refine ⟨?_, rfl, rfl⟩
    rw [snapshot_report hload]
    rfl
  obtain ⟨hread, -, hsame, -⟩ := replay_agrees_with_live_run connect staffOptions
    (some "staff.json") staffRows files after "staff.json" hload hdistinct hkeys hsaved rfl
  exact ⟨hread, hsame⟩

end SchemaDiagram
