import SchemaDiagram.Path
import SchemaDiagram.Settings.Values
import SchemaDiagram.Text.Quoted

/-!
# Resolved settings

`Settings.resolve` gives the values that all layers leave open their defaults and brings the
list of schemas into normal form: the entries split at commas, trimmed, without blanks and
repetitions, and the default schema where nothing is left.

* `Settings.connection`: the parameters of a connection, all of which must be set;
* `Settings.targets`: where the document of each schema goes. Several schemas go to several
  files, named after the configured one with the name of the schema before the extension.
-/

namespace SchemaDiagram

/-- **Settings error.** -/
inductive SettingsError where
  | emptyFilename
  /-- An option without default is not set. -/
  | missingOption (name : String)
  deriving DecidableEq

/-- The text of a settings error. -/
def SettingsError.message : SettingsError → String
  | emptyFilename => "filename must not be empty"
  | missingOption name => "missing required option: " ++ name

/-- **Settings** with all defaults applied. -/
structure Settings where
  schemas : List String
  host : String
  port : UInt16
  database : Option String
  user : Option String
  password : Option String
  filename : String
  strict : Bool
  tables : List String
  exclude : List String
  deriving DecidableEq

/-! ### Schemas -/

/-- The parts of a text between commas, trimmed, without the blank ones. -/
def commaParts (s : String) : List String :=
  ((Text.splitOn ',' s).map Text.trim).filter (· ≠ "")

/-- The schema that is drawn where none is configured. -/
def defaultSchema : String := "public"

/-- **Normal form of a list of schemas.** -/
def schemaList (entries : List String) : List String :=
  -- Blank entries are no schemas, so the list may be empty although entries were given.
  match (entries.flatMap commaParts).eraseDups with
  | [] => [defaultSchema]
  | schemas => schemas

/-! ### Resolution -/

/-- **Resolving** the values of all layers. -/
def Settings.resolve (values : SettingValues) : Except SettingsError Settings :=
  let filename := values.filename.getD "output.txt"
  if filename = "" then .error .emptyFilename
  else .ok
    { schemas := schemaList (values.schema.getD [])
      host := values.host.getD "localhost"
      port := values.port.getD 5432
      database := values.database
      user := values.user
      password := values.password
      filename
      strict := values.strict.getD false
      tables := values.tables.getD []
      exclude := values.exclude.getD [] }

/-! ### Connections -/

/-- **Connection parameters.** -/
structure Connection where
  host : String
  port : UInt16
  database : String
  user : String
  password : String
  deriving DecidableEq

/-- The value of an option that must be set. -/
def mustBeSet (name : String) : Option String → Except SettingsError String
  | some value => .ok value
  | none => .error (.missingOption name)

/-- The connection parameters of some settings; the first of database, user and password that
is not set is an error. -/
def Settings.connection (s : Settings) : Except SettingsError Connection := do
  -- The order of these steps is that of the errors.
  let database ← mustBeSet "database" s.database
  let user ← mustBeSet "user" s.user
  let password ← mustBeSet "password" s.password
  return { host := s.host, port := s.port, database, user, password }

/-- The parameters in words, with the password hidden. -/
def Connection.describe (c : Connection) : String :=
  "ConnectionConfig \x7b host: " ++ Text.quote c.host ++ ", port: " ++ toString c.port.toNat ++
    ", database: " ++ Text.quote c.database ++ ", user: " ++ Text.quote c.user ++
    ", password: " ++ Text.quote "********" ++ " \x7d"

/-! ### Targets -/

/-- **Output target** of a document. -/
inductive OutputTarget where
  | standardOutput
  | file (path : String)
  deriving DecidableEq

/-- The path of the document of one of several schemas: the name of the schema stands between
the stem and the extension of the configured file name. -/
def schemaOutputPath (filename schema : String) : String :=
  -- The name of the schema is taken as it is, with any slash in it.
  let name := match Path.extension? filename with
    | some extension => Path.stem filename ++ "." ++ schema ++ "." ++ extension
    | none => Path.stem filename ++ "." ++ schema
  Path.withFileName filename name

/-- The target of the document of a schema. -/
def Settings.target (s : Settings) (schema : String) : OutputTarget :=
  -- Paths are compared by components, so that `-/` is standard output as well.
  if Path.components s.filename = [.name "-"] then .standardOutput
  else if s.schemas.length > 1 then .file (schemaOutputPath s.filename schema)
  else .file s.filename

/-- **Output targets:** each schema with the target of its document. -/
def Settings.targets (s : Settings) : List (String × OutputTarget) :=
  s.schemas.map fun schema => (schema, s.target schema)

end SchemaDiagram
