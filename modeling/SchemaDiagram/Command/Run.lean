import SchemaDiagram.Catalog.Builder
import SchemaDiagram.Catalog.Database
import SchemaDiagram.Catalog.Filter
import SchemaDiagram.Catalog.Validity
import SchemaDiagram.Command.Arguments
import SchemaDiagram.Diagram.Document
import SchemaDiagram.FileTree
import SchemaDiagram.Settings.File
import SchemaDiagram.Settings.Resolve
import SchemaDiagram.Snapshot.Catalog

/-!
# Running commands

What a command does. A command reads what it needs from its environment, and yields a list of
effects: lines for the user, output, files to write. Nothing is read after the first effect on a
file, and all documents are drawn before the first one is written, so that an error of drawing
writes nothing.

* `Command.report`: the effects of a command, with the error that ends it, if there is one;
* `Report.perform`: the outcome of a report in a file tree. The first file that cannot be written
  ends the run.
-/

namespace SchemaDiagram

/-! ### Environment and effects -/

/-- **Environment:** what a command can read. -/
structure Environment where
  /-- The text of a file. -/
  textOf : String → Except SystemError String
  /-- The database behind connection parameters. -/
  connect : Connection → Except SystemError Database

/-- **Effect** of a command. -/
inductive Effect where
  /-- A line for the user. -/
  | tell (text : String)
  /-- Standard output. -/
  | print (text : String)
  /-- A file to create or overwrite. -/
  | write (path content : String)
  deriving DecidableEq

/-! ### Errors -/

/-- Why a configuration file cannot be used. -/
inductive ConfigError where
  | unreadable (cause : SystemError)
  | unusable (cause : Yaml.ReadError)

/-- The text of an error about a configuration file. -/
def ConfigError.message : ConfigError → String
  | unreadable cause => cause.message
  | unusable cause => cause.message

/-- **Command error:** why a command ends without success. -/
inductive CommandError where
  | config (path : String) (cause : ConfigError)
  | settings (cause : SettingsError)
  | unreadableSnapshot (path : String) (cause : SystemError)
  | unusableSnapshot (path : String) (cause : SnapshotError)
  | connection (target : Connection) (cause : SystemError)
  | load (cause : LoadError)
  | pattern (cause : TableFilter.PatternError)
  | catalog (cause : CatalogError)
  | diagram (schema : String) (cause : DiagramError)
  | output (path : String) (cause : SystemError)

/-- The text of a command error: what failed and, after a colon each, its causes. -/
def CommandError.message : CommandError → String
  | config path cause => "failed to load config " ++ path ++ ": " ++ cause.message
  | settings cause => cause.message
  | unreadableSnapshot path cause =>
    "failed to read catalog snapshot " ++ path ++ ": " ++ cause.message
  | unusableSnapshot path cause => "invalid catalog snapshot " ++ path ++ ": " ++ cause.message
  | connection target cause =>
    "failed to connect to " ++ target.host ++ ":" ++ toString target.port.toNat ++ "/" ++
      target.database ++ ": error communicating with database: " ++ cause.message ++ ": " ++
      cause.message
  | load cause => cause.message
  | pattern cause => cause.message
  | catalog cause => cause.message
  | diagram schema cause => "failed to render schema " ++ schema ++ ": " ++ cause.message
  | output path cause => "failed to create " ++ path ++ ": " ++ cause.message

/-! ### Scripts -/

/-- What a command has done so far. -/
structure Journal where
  effects : List Effect
  warnings : List Warning

/-- **Script:** a computation of effects and warnings, which outlive an error. -/
abbrev Script := ExceptT CommandError (StateM Journal)

/-- Adds an effect. -/
def Script.effect (effect : Effect) : Script Unit :=
  modify fun journal => { journal with effects := journal.effects ++ [effect] }

/-- Adds warnings. -/
def Script.warn (warnings : List Warning) : Script Unit :=
  modify fun journal => { journal with warnings := journal.warnings ++ warnings }

/-- A result in a script; an error is told as one of the command. -/
def Script.ofExcept {ε α : Type} (error : ε → CommandError) (result : Except ε α) : Script α :=
  ExceptT.mk (pure (result.mapError error))

/-! ### Settings -/

/-- The values that the options of a command set. -/
def SourceOptions.values (options : SourceOptions) : SettingValues :=
  { SettingValues.empty with
    -- The list is set even if it is empty.
    schema := some options.schema
    host := options.host
    port := options.port
    database := options.database
    user := options.user
    password := options.password }

/-- The parts of a list of patterns between commas. -/
def patternList (patterns : Option String) : Option (List String) := patterns.map commaParts

/-- The values that only the command for diagrams sets. -/
def RenderOptions.values (options : RenderOptions) : SettingValues :=
  { SettingValues.empty with
    filename := options.filename
    -- The switch can only turn the policy on.
    strict := if options.strict then some true else none
    tables := patternList options.tables
    exclude := patternList options.exclude }

/-- The values of the configuration file, if there is one. -/
def SourceOptions.fileValues (env : Environment) (options : SourceOptions) :
    Except CommandError SettingValues :=
  match options.config with
  | none => .ok .empty
  | some path =>
    match env.textOf path with
    | .error cause => .error (.config path (.unreadable cause))
    | .ok text => (SettingValues.ofYaml text).mapError fun cause => .config path (.unusable cause)

/-- **Settings of a command:** the file below the options, and further values on top. -/
def SourceOptions.settings (env : Environment) (options : SourceOptions) (top : SettingValues) :
    Except CommandError Settings := do
  -- Each layer covers those before it.
  let file ← options.fileValues env
  (Settings.resolve ((file.overlay options.values).overlay top)).mapError .settings

/-! ### Catalogs -/

/-- **Loading a catalog** from the database. -/
def loadCatalog (env : Environment) (settings : Settings) : Script Catalog := do
  -- Missing options are noticed before the database is asked.
  let connection ← Script.ofExcept .settings settings.connection
  let database ← Script.ofExcept (.connection connection) (env.connect connection)
  let rows ← Script.ofExcept .load database.rows
  let builder := Builder.ofRows rows
  Script.warn builder.warnings
  return builder.build

/-- **Reading a catalog** from a snapshot. -/
def readCatalog (env : Environment) (path : String) : Script Catalog := do
  -- The user is told of the file before it is opened.
  Script.effect (.tell ("Rendering snapshot: " ++ path))
  let text ← Script.ofExcept (.unreadableSnapshot path) (env.textOf path)
  Script.ofExcept (.unusableSnapshot path) (Catalog.ofSnapshot text)

/-! ### Diagrams -/

/-- A schema that has been drawn, with the target of its document. -/
structure DrawnSchema where
  schema : Schema
  target : OutputTarget
  document : Document

/-- Draws the selected tables of a schema of the catalog. -/
def drawTarget (settings : Settings) (filter : TableFilter) (catalog : Catalog) (name : String)
    (target : OutputTarget) : Script DrawnSchema := do
  let whole ← Script.ofExcept .catalog (catalog.requireSchema name)
  let schema := filter.apply whole
  let (document, warnings) := schema.document (if settings.strict then .strict else .lenient)
  -- Warnings stay, also if the drawing ends with an error.
  Script.warn warnings
  return { schema, target, document := ← Script.ofExcept (.diagram name) document }

/-- Draws the schemas of all targets, in order. -/
def drawTargets (settings : Settings) (filter : TableFilter) (catalog : Catalog) :
    List (String × OutputTarget) → Script (List DrawnSchema)
  | [] => return []
  | (name, target) :: targets => do
    let drawn ← drawTarget settings filter catalog name target
    let more ← drawTargets settings filter catalog targets
    return drawn :: more

/-- What has been drawn, in numbers. -/
def DrawnSchema.summary (drawn : DrawnSchema) : String :=
  "Schema " ++ drawn.schema.name ++ ": " ++ toString drawn.schema.tables.length ++ " tables, " ++
    toString drawn.schema.columnCount ++ " columns, " ++
    toString drawn.document.relationLines ++ " relation lines from " ++
    toString drawn.document.keys.size ++ " foreign keys"

/-- The effects that bring a document to its target. -/
def DrawnSchema.effects (drawn : DrawnSchema) : List Effect :=
  let output := match drawn.target with
    | .standardOutput => [.print drawn.document.text]
    | .file path => [.write path drawn.document.text, .tell ("DSL written to: " ++ path)]
  output ++ [.tell drawn.summary]

/-- **Rendering:** the documents of a catalog under some settings. -/
def renderCatalog (settings : Settings) (catalog : Catalog) : Script Unit := do
  let filter ← Script.ofExcept .pattern (TableFilter.ofPatterns settings.tables settings.exclude)
  -- No effect precedes the last document, so that an error of drawing leaves all files alone.
  let drawn ← drawTargets settings filter catalog settings.targets
  for effect in drawn.flatMap (·.effects) do Script.effect effect

/-! ### Commands -/

/-- The command that draws diagrams. -/
def RenderOptions.run (env : Environment) (options : RenderOptions) : Script Unit := do
  let settings ← Script.ofExcept id (options.source.settings env options.values)
  let catalog ← match options.catalog with
    | some path => readCatalog env path
    | none => loadCatalog env settings
  renderCatalog settings catalog

/-- The effects that bring a snapshot to its target. -/
def snapshotEffects (catalog : Catalog) (output : Option String) : List Effect :=
  let text := catalog.toSnapshot
  let written := match output with
    | some path => [.write path text, .tell ("Snapshot written to: " ++ path)]
    -- Only standard output gets a line feed at the end.
    | none => [.print (text ++ "\n")]
  written ++
    [.tell ("Snapshot: " ++ toString catalog.schemas.length ++ " schemas, " ++
      toString catalog.tableCount ++ " tables")]

/-- The command that writes snapshots. -/
def runSnapshot (env : Environment) (source : SourceOptions) (output : Option String) :
    Script Unit := do
  let settings ← Script.ofExcept id (source.settings env .empty)
  let catalog ← loadCatalog env settings
  for effect in snapshotEffects catalog output do Script.effect effect

/-- What a command does. Completion scripts are left to the shell. -/
def Command.script (env : Environment) : Command → Script Unit
  | .render options => options.run env
  | .snapshot source output => runSnapshot env source output
  | .snapshotFormat => Script.effect (.print (snapshotSchema.pretty ++ "\n"))
  | .completions _ => return ()

/-- **Report:** the effects and warnings of a command, and the error that ends it. -/
structure Report where
  effects : List Effect
  warnings : List Warning
  error : Option CommandError

/-- **Running a command.** -/
def Command.report (env : Environment) (command : Command) : Report :=
  -- An error leaves the effects and warnings that came before it.
  match (ExceptT.run (command.script env)).run ⟨[], []⟩ with
  | (.ok (), journal) => ⟨journal.effects, journal.warnings, none⟩
  | (.error e, journal) => ⟨journal.effects, journal.warnings, some e⟩

/-! ### Outcomes -/

/-- **Outcome** of a run. -/
structure Outcome where
  exitCode : Nat
  standardOutput : String
  standardError : String
  files : FileTree

/-- The outcome with which a run starts. -/
def Outcome.initial (files : FileTree) : Outcome := ⟨0, "", "", files⟩

/-- An outcome with one more line for the user. -/
def Outcome.tell (outcome : Outcome) (text : String) : Outcome :=
  { outcome with standardError := outcome.standardError ++ text ++ "\n" }

/-- An outcome that an error ends. -/
def Outcome.fail (outcome : Outcome) (error : CommandError) : Outcome :=
  { outcome.tell error.message with exitCode := 1 }

/-- The outcome after an effect, or the error in the way of it. -/
def Outcome.apply (outcome : Outcome) : Effect → Except CommandError Outcome
  | .tell text => .ok (outcome.tell text)
  | .print text => .ok { outcome with standardOutput := outcome.standardOutput ++ text }
  | .write path content =>
    match outcome.files.write path content with
    | .ok files => .ok { outcome with files }
    | .error cause => .error (.output path cause)

/-- The outcome of some effects and of the error after them. -/
def Outcome.perform (outcome : Outcome) (error : Option CommandError) :
    List Effect → Outcome
  | [] => error.elim outcome outcome.fail
  | effect :: effects =>
    match outcome.apply effect with
    | .ok next => next.perform error effects
    -- Effects that have happened before an error are not undone.
    | .error e => outcome.fail e

/-- **Performing a report** in a file tree. -/
def Report.perform (report : Report) (files : FileTree) : Outcome :=
  (Outcome.initial files).perform report.error report.effects

end SchemaDiagram
