/-!
# Layers of settings

Settings come from several layers: a configuration file, flags of the command line. A layer
sets some of the values and leaves the others open; a later layer is laid over the earlier
ones. An empty list of a later layer hides nothing.
-/

namespace SchemaDiagram

/-- **Layer** of settings; `none` leaves a value open. -/
structure SettingValues where
  /-- The schemas to load and to draw. -/
  schema : Option (List String)
  host : Option String
  port : Option UInt16
  database : Option String
  user : Option String
  password : Option String
  /-- The file to write, `-` for standard output. -/
  filename : Option String
  /-- Whether precisions are strict. -/
  strict : Option Bool
  /-- The patterns of the tables to include. -/
  tables : Option (List String)
  /-- The patterns of the tables to exclude. -/
  exclude : Option (List String)
  deriving DecidableEq

namespace SettingValues

/-- The layer that leaves everything open. -/
def empty : SettingValues := ⟨none, none, none, none, none, none, none, none, none, none⟩

/-- The list of the upper layer unless it is empty, else that of the lower one. -/
def overlayList (lower upper : Option (List String)) : Option (List String) :=
  (upper.filter (!·.isEmpty)).or lower

/-- **Overlay.** What the upper layer sets wins; lists win where they are not empty. -/
def overlay (lower upper : SettingValues) : SettingValues :=
  { schema := overlayList lower.schema upper.schema
    host := upper.host.or lower.host
    port := upper.port.or lower.port
    database := upper.database.or lower.database
    user := upper.user.or lower.user
    password := upper.password.or lower.password
    filename := upper.filename.or lower.filename
    strict := upper.strict.or lower.strict
    tables := overlayList lower.tables upper.tables
    exclude := overlayList lower.exclude upper.exclude }

end SettingValues

end SchemaDiagram
