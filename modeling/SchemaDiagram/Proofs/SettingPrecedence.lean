import Mathlib.Data.List.Induction
import SchemaDiagram.Command.Run
import SchemaDiagram.Proofs.Results

/-!
# Which layer a setting comes from

Ten settings follow one rule. A layer **sets** a setting if it gives a value that counts, where a
list counts unless it is empty (`Setting.set?`). An overlay takes what the upper layer sets and
leaves the rest to the lower one (`SettingValues.given?_overlay`), so of a pile of layers the last
one that sets a setting decides (`Setting.LastSet`, `SettingValues.given?_foldl_overlay`).

All flags of a command line are one layer (`SourceOptions.values`, `RenderOptions.flags`) over that
of the configuration file, and the defaults lie below both. `Setting.resolved` is the value that a
setting has then; it reads nothing but this one setting in the two layers.
-/

namespace SchemaDiagram

/-- **Setting:** one of the values of a layer. -/
inductive Setting where
  | schema
  | host
  | port
  | database
  | user
  | password
  | filename
  | strict
  | tables
  | exclude

namespace Setting

/-- The type of the values of a setting. -/
def Value : Setting → Type
  | .schema | .tables | .exclude => List String
  | .host | .database | .user | .password | .filename => String
  | .port => UInt16
  | .strict => Bool

/-- The value that a layer gives. -/
def given? (layer : SettingValues) : (s : Setting) → Option s.Value
  | .schema => layer.schema
  | .host => layer.host
  | .port => layer.port
  | .database => layer.database
  | .user => layer.user
  | .password => layer.password
  | .filename => layer.filename
  | .strict => layer.strict
  | .tables => layer.tables
  | .exclude => layer.exclude

/-- A list counts unless it is empty, any other value counts always. -/
def counts : (s : Setting) → s.Value → Bool
  | .schema, (entries : List String) => !entries.isEmpty
  | .tables, (entries : List String) => !entries.isEmpty
  | .exclude, (entries : List String) => !entries.isEmpty
  | _, _ => true

/-- **What a layer sets:** the value that it gives, if it counts. -/
def set? (s : Setting) (layer : SettingValues) : Option s.Value :=
  (s.given? layer).filter s.counts

/-- **The last value set.** It is that of the last layer that sets the setting, and there is none
just in case no layer does. -/
def LastSet (s : Setting) (layers : List SettingValues) (value? : Option s.Value) : Prop :=
  (∀ value, value? = some value ↔ ∃ earlier layer later, layers = earlier ++ layer :: later ∧
    s.set? layer = some value ∧ ∀ other ∈ later, s.set? other = none) ∧
  (value? = none ↔ ∀ layer ∈ layers, s.set? layer = none)

/-- The empty layer sets nothing. -/
theorem set?_empty (s : Setting) : s.set? .empty = none := by
  cases s <;> rfl

/-- The first layer found from the end is the last one that sets the setting. -/
theorem lastSet_findSome? (s : Setting) (layers : List SettingValues) :
    s.LastSet layers (layers.reverse.findSome? s.set?) := by
  -- Searching the reversed list from its front is searching the list from its end, so the parts of
  -- the split are reversed.
  refine ⟨fun value => List.findSome?_eq_some_iff.trans ⟨?_, ?_⟩, ?_⟩
  · rintro ⟨later, layer, earlier, hsplit, hlayer, hlater⟩
    refine ⟨earlier.reverse, layer, later.reverse, ?_, hlayer, fun other hother => ?_⟩
    · rw [← List.reverse_reverse layers, hsplit]
      simp
    · exact hlater other (List.mem_reverse.1 hother)
  · rintro ⟨earlier, layer, later, rfl, hlayer, hlater⟩
    refine ⟨later.reverse, layer, earlier.reverse, by simp, hlayer, fun other hother => ?_⟩
    exact hlater other (List.mem_reverse.1 hother)
  · rw [List.findSome?_eq_none_iff]
    exact forall_congr' fun layer => imp_congr_left List.mem_reverse

end Setting

/-! ### Overlays -/

namespace SettingValues

/-- Layers that give the same values are the same. -/
theorem ext_given? {a b : SettingValues} (h : ∀ s : Setting, s.given? a = s.given? b) : a = b := by
  have hschema : a.schema = b.schema := h .schema
  have hhost : a.host = b.host := h .host
  have hport : a.port = b.port := h .port
  have hdatabase : a.database = b.database := h .database
  have huser : a.user = b.user := h .user
  have hpassword : a.password = b.password := h .password
  have hfilename : a.filename = b.filename := h .filename
  have hstrict : a.strict = b.strict := h .strict
  have htables : a.tables = b.tables := h .tables
  have hexclude : a.exclude = b.exclude := h .exclude
  cases a
  cases b
  simp_all

/-- A condition that always holds keeps every value. -/
theorem filter_true {α : Type} (value? : Option α) : value?.filter (fun _ => true) = value? := by
  cases value? <;> rfl

/-- **Overlay,** setting by setting. -/
theorem given?_overlay (lower upper : SettingValues) (s : Setting) :
    s.given? (lower.overlay upper) = (s.set? upper).or (s.given? lower) := by
  -- The three lists are filtered in the definition already.
  cases s
  case schema => rfl
  case tables => rfl
  case exclude => rfl
  all_goals exact congrArg (Option.or · _) (filter_true _).symm

/-- What an overlay sets. -/
theorem set?_overlay (lower upper : SettingValues) (s : Setting) :
    s.set? (lower.overlay upper) = (s.set? upper).or (s.set? lower) := by
  -- A value that the upper layer sets counts, so it passes the second filter as well.
  have hfilter : ((s.set? upper).or (s.given? lower)).filter s.counts =
      ((s.set? upper).filter s.counts).or (s.set? lower) := by
    cases hupper : s.set? upper with
    | none => rfl
    | some value =>
      have hcounts : s.counts value := (Option.filter_eq_some_iff.1 hupper).2
      rw [Option.some_or, Option.filter_some, if_pos hcounts, Option.some_or]
  have hagain : (s.set? upper).filter s.counts = s.set? upper := by
    rw [Setting.set?, Option.filter_filter]
    simp only [Bool.and_self]
  rw [Setting.set?, given?_overlay, hfilter, hagain]

/-- **Overlays are associative:** of three layers the last one that sets a setting decides, however
they are put together. -/
theorem overlay_assoc (a b c : SettingValues) :
    (a.overlay b).overlay c = a.overlay (b.overlay c) := by
  refine ext_given? fun s => ?_
  rw [given?_overlay, given?_overlay, given?_overlay, set?_overlay, Option.or_assoc]

/-- The empty layer changes nothing on top of another one. -/
theorem overlay_empty (a : SettingValues) : a.overlay .empty = a := by
  refine ext_given? fun s => ?_
  rw [given?_overlay, s.set?_empty, Option.none_or]

/-- **A pile of layers** over nothing gives what the first layer found from its top sets. -/
theorem given?_foldl_overlay (layers : List SettingValues) (s : Setting) :
    s.given? (layers.foldl overlay .empty) = layers.reverse.findSome? s.set? := by
  -- The top of the pile is the last layer, so it is taken off at that end.
  induction layers using List.reverseRecOn with
  | nil => cases s <;> rfl
  | append_singleton layers upper ih =>
    rw [List.foldl_append, List.foldl_cons, List.foldl_nil, given?_overlay, ih,
      List.reverse_append, List.reverse_singleton, List.singleton_append, List.findSome?_cons]
    cases s.set? upper <;> rfl

end SettingValues

/-! ### Resolved settings -/

namespace Setting

/-- The value of a setting that no layer sets; some have none. -/
def default? : (s : Setting) → Option s.Value
  | .schema => some [defaultSchema]
  | .host => some "localhost"
  | .port => some (5432 : UInt16)
  | .database | .user | .password => none
  | .filename => some "output.txt"
  | .strict => some false
  | .tables | .exclude => some ([] : List String)

/-- The list of schemas is brought into normal form, any other value stays as it is. -/
def normalize : (s : Setting) → s.Value → s.Value
  | .schema, (entries : List String) => schemaList entries
  | _, value => value

/-- **The resolved value:** that of the flags, else that of the file, else the default. -/
def resolved (s : Setting) (flags file : SettingValues) : Option s.Value :=
  (((s.set? flags).or (s.set? file)).map s.normalize).or s.default?

end Setting

/-- The value of a setting after its resolution. -/
def Settings.value? (settings : Settings) : (s : Setting) → Option s.Value
  | .schema => some settings.schemas
  | .host => some settings.host
  | .port => some settings.port
  | .database => settings.database
  | .user => settings.user
  | .password => settings.password
  | .filename => some settings.filename
  | .strict => some settings.strict
  | .tables => some settings.tables
  | .exclude => some settings.exclude

/-- An empty file name is refused. -/
theorem Settings.resolve_eq_error {values : SettingValues}
    (h : (values.filename.getD "output.txt") = "") :
    Settings.resolve values = .error .emptyFilename := by
  rw [resolve]
  exact if_pos h

/-- **What is resolved** are the values set, and the defaults elsewhere. -/
theorem Settings.resolve_eq_ok {values : SettingValues}
    (h : (values.filename.getD "output.txt") ≠ "") :
    ∃ settings, Settings.resolve values = .ok settings ∧
      ∀ s : Setting, settings.value? s = ((s.set? values).map s.normalize).or s.default? := by
  refine ⟨_, if_neg h, fun s => ?_⟩
  obtain ⟨schema, host, port, database, user, password, filename, strict, tables, exclude⟩ :=
    values
  -- Behind the look-up in the layer, each setting is an optional value with its default.
  -- Lists have a third case: a list without entries does not count.
  cases s with
  | schema => rcases schema with _ | _ | ⟨entry, entries⟩ <;> rfl
  | host => cases host <;> rfl
  | port => cases port <;> rfl
  | database => cases database <;> rfl
  | user => cases user <;> rfl
  | password => cases password <;> rfl
  | filename => cases filename <;> rfl
  | strict => cases strict <;> rfl
  | tables => rcases tables with _ | _ | ⟨entry, entries⟩ <;> rfl
  | exclude => rcases exclude with _ | _ | ⟨entry, entries⟩ <;> rfl

/-- The filename of a layer, with its default. -/
theorem Setting.resolved_filename (flags file : SettingValues) :
    Setting.filename.resolved flags file =
      some ((file.overlay flags).filename.getD "output.txt") := by
  obtain ⟨-, -, -, -, -, -, upper, -, -, -⟩ := flags
  obtain ⟨-, -, -, -, -, -, lower, -, -, -⟩ := file
  cases upper <;> cases lower <;> rfl

/-! ### Commands -/

/-- **The settings follow the precedence** of these flags over this file: every setting has its
resolved value, unless that of the filename is empty, which is an error. -/
structure FollowsPrecedence (flags file : SettingValues) (result : Except CommandError Settings) :
    Prop where
  refused : Setting.filename.resolved flags file = some "" →
    result = .error (.settings .emptyFilename)
  resolved : Setting.filename.resolved flags file ≠ some "" →
    ∃ settings, result = .ok settings ∧ ∀ s : Setting, settings.value? s = s.resolved flags file

/-- **Resolving the overlay of two layers** follows their precedence. -/
theorem followsPrecedence_resolve (flags file : SettingValues) :
    FollowsPrecedence flags file
      ((Settings.resolve (file.overlay flags)).mapError .settings) where
  refused := by
    intro hname
    rw [Setting.resolved_filename] at hname
    rw [Settings.resolve_eq_error (Option.some.inj hname)]
    rfl
  resolved := by
    intro hname
    rw [Setting.resolved_filename] at hname
    obtain ⟨settings, hresolve, hvalues⟩ := Settings.resolve_eq_ok fun h =>
      hname (congrArg some h)
    refine ⟨settings, ?_, fun s => ?_⟩
    · rw [hresolve]
      rfl
    · rw [hvalues s, SettingValues.set?_overlay]
      rfl

/-- Layers that set the same are followed in the same way. -/
theorem FollowsPrecedence.congr {flags flags' file : SettingValues}
    {result : Except CommandError Settings} (h : FollowsPrecedence flags file result)
    (hset : ∀ s : Setting, s.set? flags = s.set? flags') :
    FollowsPrecedence flags' file result := by
  -- Nothing but what the flags set is read from them.
  have hresolved : ∀ s : Setting, s.resolved flags file = s.resolved flags' file := by
    intro s
    rw [Setting.resolved, Setting.resolved, hset s]
  refine ⟨fun hname => h.refused ((hresolved _).trans hname), fun hname => ?_⟩
  obtain ⟨settings, hresult, hvalues⟩ := h.resolved fun h => hname ((hresolved _).symm.trans h)
  exact ⟨settings, hresult, fun s => (hvalues s).trans (hresolved s)⟩

/-- **The flags of the command for diagrams** as one layer. -/
def RenderOptions.flags (options : RenderOptions) : SettingValues where
  schema := some options.source.schema
  host := options.source.host
  port := options.source.port
  database := options.source.database
  user := options.source.user
  password := options.source.password
  filename := options.filename
  strict := if options.strict then some true else none
  tables := options.tables.map commaParts
  exclude := options.exclude.map commaParts

/-- The two layers of flags of this command set what the one does. -/
theorem RenderOptions.set?_flags (options : RenderOptions) (s : Setting) :
    s.set? (options.source.values.overlay options.values) = s.set? options.flags := by
  rw [SettingValues.set?_overlay]
  -- The four values that the second layer of flags has of its own are not in the first one.
  cases s
  case filename => exact Option.or_none
  case strict => exact Option.or_none
  case tables => exact Option.or_none
  case exclude => exact Option.or_none
  all_goals rfl

section Commands

variable {env : Environment} {file : SettingValues}

/-- The settings of the command for diagrams follow the precedence of its flags. -/
theorem RenderOptions.followsPrecedence {options : RenderOptions}
    (hfile : options.source.fileValues env = .ok file) :
    FollowsPrecedence options.flags file (options.source.settings env options.values) := by
  -- The flags are two layers over the file in the command, and one layer here.
  have hsettings : options.source.settings env options.values =
      (Settings.resolve (file.overlay (options.source.values.overlay options.values))).mapError
        .settings := by
    rw [SourceOptions.settings, hfile, ← SettingValues.overlay_assoc]
    rfl
  rw [hsettings]
  exact (followsPrecedence_resolve _ file).congr options.set?_flags

/-- The command for snapshots has no further flags. -/
theorem SourceOptions.followsPrecedence {options : SourceOptions}
    (hfile : options.fileValues env = .ok file) :
    FollowsPrecedence options.values file (options.settings env .empty) := by
  have hsettings : options.settings env .empty =
      (Settings.resolve (file.overlay options.values)).mapError .settings := by
    rw [SourceOptions.settings, hfile, ← SettingValues.overlay_empty (file.overlay options.values)]
    rfl
  rw [hsettings]
  exact followsPrecedence_resolve _ file

end Commands

/-- The flag for strict precisions only turns them on. -/
theorem RenderOptions.resolved_strict (options : RenderOptions) (file : SettingValues) :
    Setting.strict.resolved options.flags file =
      some (options.strict || file.strict.getD false) := by
  obtain ⟨source, filename, catalog, strict, tables, exclude⟩ := options
  obtain ⟨-, -, -, -, -, -, -, lower, -, -⟩ := file
  cases strict <;> cases lower <;> rfl

/-- **Precedence of options.** Overlays are associative, the empty layer changes nothing on top, and
of any layers the last one that sets a setting decides. So both commands resolve every setting to
the value of its flag, else of the file, else to its default; the flag for strict precisions can
only turn them on, and no other setting makes a difference to the value of one. -/
theorem flags_over_file_over_defaults :
    (∀ a b c : SettingValues, (a.overlay b).overlay c = a.overlay (b.overlay c)) ∧
    (∀ a : SettingValues, a.overlay .empty = a) ∧
    (∀ (layers : List SettingValues) (s : Setting),
      s.LastSet layers (s.given? (layers.foldl SettingValues.overlay .empty))) ∧
    (∀ (env : Environment) (options : RenderOptions) (file : SettingValues),
      options.source.fileValues env = .ok file →
        FollowsPrecedence options.flags file (options.source.settings env options.values) ∧
        Setting.strict.resolved options.flags file =
          some (options.strict || file.strict.getD false)) ∧
    (∀ (env : Environment) (options : SourceOptions) (file : SettingValues),
      options.fileValues env = .ok file →
        FollowsPrecedence options.values file (options.settings env .empty)) ∧
    ∀ (s : Setting) (flags file flags' file' : SettingValues),
      s.given? flags = s.given? flags' → s.given? file = s.given? file' →
        s.resolved flags file = s.resolved flags' file' := by
  refine ⟨SettingValues.overlay_assoc, SettingValues.overlay_empty, fun layers s => ?_,
    fun env options file hfile => ?_, fun env options file hfile => ?_, ?_⟩
  · -- Each setting is found in the last layer that sets it.
    rw [SettingValues.given?_foldl_overlay]
    exact s.lastSet_findSome? layers
  · exact ⟨RenderOptions.followsPrecedence hfile, options.resolved_strict file⟩
  · exact SourceOptions.followsPrecedence hfile
  · -- A resolved value is computed from what the two layers set of this setting.
    intro s flags file flags' file' hflags hfile
    rw [Setting.resolved, Setting.resolved, Setting.set?, Setting.set?, Setting.set?, Setting.set?,
      hflags, hfile]

/-- A configuration file that turns on strict precisions and selects one table. -/
def ordersConfig : String := "strict: true\nhost: db.internal\nschema: []\ntables: [orders]\n"

/-- What the configuration file gives. -/
def ordersFile : SettingValues where
  schema := some []
  host := some "db.internal"
  port := none
  database := none
  user := none
  password := none
  filename := none
  strict := some true
  tables := some ["orders"]
  exclude := none

/-- Options with a schema and a port of their own, and with a list of patterns that names none. -/
def ordersOptions : RenderOptions where
  source := ⟨some "orders.yaml", ["sales", "crm"], none, some 6000, none, none, none⟩
  filename := some "-"
  catalog := none
  strict := false
  tables := some " , "
  exclude := none

/-- An environment with the configuration file alone. -/
def ordersEnvironment : Environment where
  textOf path := if path = "orders.yaml" then .ok ordersConfig else .error .notFound
  connect _ := .error .connectionRefused

/-- The file is read to these values. -/
theorem ordersConfig_read : SettingValues.ofYaml ordersConfig = .ok ordersFile := by
  -- Values may be compared and errors may not, so the reading is evaluated without its error.
  have hread : (SettingValues.ofYaml ordersConfig).toOption = some ordersFile := by decide +kernel
  cases hvalues : SettingValues.ofYaml ordersConfig with
  | error cause =>
    rw [hvalues] at hread
    cases hread
  | ok values =>
    rw [hvalues] at hread
    rw [show values = ordersFile from Option.some.inj hread]

/-- The file has a list of tables and strict precisions, the flags a list of schemas and a port. -/
theorem flags_over_file_over_defaults_orders :
    ordersOptions.source.fileValues ordersEnvironment = .ok ordersFile ∧
    FollowsPrecedence ordersOptions.flags ordersFile
      (ordersOptions.source.settings ordersEnvironment ordersOptions.values) ∧
    FollowsPrecedence ordersOptions.source.values ordersFile
      (ordersOptions.source.settings ordersEnvironment .empty) ∧
    Setting.tables.resolved ordersOptions.flags ordersFile = some ["orders"] ∧
    Setting.schema.resolved ordersOptions.flags ordersFile = some ["sales", "crm"] ∧
    Setting.strict.resolved ordersOptions.flags ordersFile = some true ∧
    Setting.port.resolved ordersOptions.flags ordersFile =
      Setting.port.resolved ordersOptions.source.values .empty := by
  obtain ⟨-, -, -, hrender, hsnapshot, hindependent⟩ := flags_over_file_over_defaults
  have hfile : ordersOptions.source.fileValues ordersEnvironment = .ok ordersFile := by
    change (SettingValues.ofYaml ordersConfig).mapError _ = _
    rw [ordersConfig_read]
    rfl
  obtain ⟨hfollows, hstrict⟩ := hrender ordersEnvironment ordersOptions ordersFile hfile
  have hport := hindependent .port ordersOptions.flags ordersFile ordersOptions.source.values .empty
    rfl rfl
  exact ⟨hfile, hfollows, hsnapshot _ _ _ hfile, rfl, rfl, hstrict, hport⟩

end SchemaDiagram
