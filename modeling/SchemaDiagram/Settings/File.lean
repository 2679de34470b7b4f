import SchemaDiagram.Settings.Values
import SchemaDiagram.Yaml.Read

/-!
# Configuration files

A configuration file is a YAML text with a mapping from the names of settings to their values.
A setting that is null or left out stays open; an unknown or repeated name is an error.
-/

namespace SchemaDiagram

namespace SettingValues

/-- The names of the settings in a file. -/
def names : List String :=
  ["schema", "host", "port", "database", "user", "password", "filename", "strict", "tables",
    "exclude"]

/-- The reader that sets one of the values, given its name and the path for messages. -/
def readSetting (document : Yaml.Document) (values : SettingValues) (name path : String) :
    Option (Yaml.Reader SettingValues) :=
  let optional {α : Type} (read : Yaml.Reader α) (set : Option α → SettingValues) :
      Yaml.Reader SettingValues := fun entries => do
    let (value, rest) ← Yaml.readOptional document read entries
    return (set value, rest)
  let text := Yaml.readText path "a string"
  let texts := Yaml.readTexts document path
  match name with
  | "schema" => some (optional texts fun schema => { values with schema })
  | "host" => some (optional text fun host => { values with host })
  | "port" => some (optional (Yaml.readWord path) fun port => { values with port })
  | "database" => some (optional text fun database => { values with database })
  | "user" => some (optional text fun user => { values with user })
  | "password" => some (optional text fun password => { values with password })
  | "filename" =>
    some (optional (Yaml.readText path "path string") fun filename => { values with filename })
  | "strict" => some (optional (Yaml.readFlag path) fun strict => { values with strict })
  | "tables" => some (optional texts fun tables => { values with tables })
  | "exclude" => some (optional texts fun exclude => { values with exclude })
  | _ => none

/-- The path to the value of a key; that of an alias has no name. -/
def pathOf (name : String) : List Yaml.Entry → String
  | .reference _ :: _ => "?"
  | _ => name

/-- Reads settings up to the end of their mapping, at most `fuel` of them; `seen` are the names
before. -/
def readSettings (document : Yaml.Document) :
    Nat → List String → SettingValues → Yaml.Reader SettingValues
  | 0, _, values, entries => .ok (values, entries)
  | _ + 1, _, values, .mappingEnd :: rest => .ok (values, rest)
  | fuel + 1, seen, values, entries => do
    let key := Yaml.readText "" "field identifier"
    let (name, rest) ← Yaml.throughAlias document key entries
    if seen.contains name then throw (.mismatch "" (.duplicateField name))
    match readSetting document values name (pathOf name entries) with
    | none => throw (.mismatch "" (.unknownField name names))
    | some read =>
      let (values, rest) ← read rest
      readSettings document fuel (name :: seen) values rest

/-- Reads a mapping of settings; a value that is left out sets nothing. -/
def read (document : Yaml.Document) : Yaml.Reader SettingValues
  | .mappingStart :: rest => readSettings document (rest.length + 1) [] empty rest
  | entry :: rest =>
    if Yaml.isLeftOut entry then .ok (empty, rest)
    else .error (Yaml.refusal "" "struct ConfigValues" (entry :: rest))
  | [] => .error (Yaml.refusal "" "struct ConfigValues" [])

/-- **Reading a configuration file.** -/
def ofYaml (text : String) : Except Yaml.ReadError SettingValues := Yaml.readDocument read text

end SettingValues

end SchemaDiagram
