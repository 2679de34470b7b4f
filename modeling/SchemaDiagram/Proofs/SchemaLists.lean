import Mathlib.Data.List.Forall2
import SchemaDiagram.Proofs.Names
import SchemaDiagram.Proofs.Pieces
import SchemaDiagram.Proofs.RepeatedFlags
import SchemaDiagram.Settings.Resolve

/-!
# Lists of schemas

A list of schemas has entries, and an entry lists names between commas, with blanks around them
(`ListsNames`). Resolving a list gives the first occurrences of all names (`FirstOccurrences`), or
the default schema where no name is listed.

What comes out is in normal form (`NormalSchemas`), and a list in normal form is what it lists
(`schemaList_of_normal`), so resolving a second time changes nothing. Joining the entries by commas
changes no name (`commaParts_intercalate`). So entries may be given one by one or in one text, in
layers as well as on the command line.
-/

namespace SchemaDiagram

/-! ### Names in entries -/

/-- **The names that an entry lists:** what stands between its commas, trimmed and without the
blank parts. -/
def ListsNames (entry : String) (names : List String) : Prop :=
  ∃ parts trimmed : List String,
    (parts ≠ [] ∧ (∀ part ∈ parts, ',' ∉ part.toList) ∧ ",".intercalate parts = entry) ∧
    List.Forall₂ Text.Trims parts trimmed ∧ names = trimmed.filter (· ≠ "")

/-- **A name of a schema** as an entry can list it. -/
structure IsListedName (name : String) : Prop where
  not_blank : ¬Text.isBlankText name
  trimmed : Text.IsTrimmed name
  not_mem : ',' ∉ name.toList

/-- What an entry is split into are the names that it lists. -/
theorem listsNames_commaParts (entry : String) : ListsNames entry (commaParts entry) := by
  refine ⟨Text.splitOn ',' entry, (Text.splitOn ',' entry).map Text.trim,
    (Text.splitOn_eq_iff rfl).1 rfl, ?_, rfl⟩
  -- Part by part, trimming is what the definition of a listed name asks for.
  rw [List.forall₂_map_right_iff, List.forall₂_same]
  exact fun part _ => Text.trims_trim part

/-- Trimming leaves only characters that were there. -/
theorem Text.Trims.subset {s t : String} (h : Text.Trims s t) : t.toList ⊆ s.toList := by
  obtain ⟨left, right, hs, -⟩ := h.margins
  intro c hc
  rw [hs]
  exact List.mem_append_left _ (List.mem_append_right _ hc)

/-- What an entry is split into are names of schemas. -/
theorem isListedName_of_mem_commaParts {entry name : String} (h : name ∈ commaParts entry) :
    IsListedName name := by
  obtain ⟨hmem, hne⟩ := List.mem_filter.1 h
  obtain ⟨part, hpart, rfl⟩ := List.mem_map.1 hmem
  have htrims := Text.trims_trim part
  refine ⟨fun hblank => ?_, htrims.trimmed, fun hcomma => ?_⟩
  · -- A trimmed text that is blank is empty, and empty parts have been left out.
    rw [← Text.trim_eq_empty_iff, htrims.trimmed.trim_eq] at hblank
    exact of_decide_eq_true hne hblank
  · -- Trimming brings no comma into a part.
    exact Text.not_mem_of_mem_splitOn hpart (htrims.subset hcomma)

/-- A name is not empty. -/
theorem IsListedName.ne_empty {name : String} (h : IsListedName name) : name ≠ "" := by
  intro hempty
  refine h.not_blank (Text.trim_eq_empty_iff.1 ?_)
  rw [h.trimmed.trim_eq, hempty]

/-- A name lists itself. -/
theorem IsListedName.commaParts_eq {name : String} (h : IsListedName name) :
    commaParts name = [name] := by
  rw [commaParts, Text.splitOn_of_not_mem h.not_mem, List.map_singleton, h.trimmed.trim_eq]
  exact List.filter_eq_self.2 fun other hother =>
    decide_eq_true (List.mem_singleton.1 hother ▸ h.ne_empty)

/-- **Joining entries** changes no name. -/
theorem commaParts_intercalate (entries : List String) :
    commaParts (",".intercalate entries) = entries.flatMap commaParts := by
  cases entries with
  | nil => rfl
  | cons entry entries =>
    rw [commaParts, Text.splitOn_intercalate_of_ne_nil rfl (List.cons_ne_nil entry entries),
      List.map_flatMap, List.filter_flatMap]
    rfl

/-! ### Normal form -/

/-- **First occurrences:** the members of a list without repetitions, in the order of their first
places in the list. -/
structure FirstOccurrences (names distinct : List String) : Prop where
  nodup : distinct.Nodup
  mem_iff : ∀ name, name ∈ distinct ↔ name ∈ names
  ordered : distinct.Pairwise fun a b => names.idxOf a < names.idxOf b

/-- Removing duplicates leaves the first occurrences. -/
theorem firstOccurrences_eraseDups (names : List String) :
    FirstOccurrences names names.eraseDups where
  nodup := nodup_eraseDups names
  mem_iff _ := List.mem_eraseDups
  ordered := eraseDups_pairwise_idxOf names

/-- **Normal form** of a list of schemas. -/
structure NormalSchemas (schemas : List String) : Prop where
  ne_nil : schemas ≠ []
  nodup : schemas.Nodup
  names : ∀ name ∈ schemas, IsListedName name

/-- Entries that list no name stand for the default schema. -/
theorem schemaList_of_eq_nil {entries : List String} (h : entries.flatMap commaParts = []) :
    schemaList entries = [defaultSchema] := by
  rw [schemaList, h]
  rfl

/-- Other entries stand for the names that they list. -/
theorem schemaList_of_ne_nil {entries : List String} (h : entries.flatMap commaParts ≠ []) :
    schemaList entries = (entries.flatMap commaParts).eraseDups := by
  -- Something is listed, so something is left without the repetitions.
  have hne : (entries.flatMap commaParts).eraseDups ≠ [] := by
    obtain ⟨name, hname⟩ := List.exists_mem_of_ne_nil _ h
    exact List.ne_nil_of_mem (List.mem_eraseDups.2 hname)
  rw [schemaList]
  split
  · next hnil => exact absurd hnil hne
  · rfl

/-- **Resolved lists are in normal form.** -/
theorem schemaList_normal (entries : List String) : NormalSchemas (schemaList entries) := by
  by_cases h : entries.flatMap commaParts = []
  · -- The default schema is a name as an entry could list it.
    rw [schemaList_of_eq_nil h]
    refine ⟨List.cons_ne_nil _ _, List.pairwise_singleton _ _, fun name hname => ?_⟩
    obtain rfl := List.mem_singleton.1 hname
    have hdefault : defaultSchema ∈ commaParts defaultSchema := by decide
    exact isListedName_of_mem_commaParts hdefault
  · -- The names are those that the entries list, each of them once.
    obtain ⟨name, hname⟩ := List.exists_mem_of_ne_nil _ h
    have hoccurrences := firstOccurrences_eraseDups (entries.flatMap commaParts)
    rw [schemaList_of_ne_nil h]
    refine ⟨List.ne_nil_of_mem ((hoccurrences.mem_iff name).2 hname), hoccurrences.nodup, ?_⟩
    intro name hname
    obtain ⟨entry, -, hentry⟩ := List.mem_flatMap.1 ((hoccurrences.mem_iff name).1 hname)
    exact isListedName_of_mem_commaParts hentry

/-- **A list in normal form** is what it lists. -/
theorem schemaList_of_normal {schemas : List String} (h : NormalSchemas schemas) :
    schemaList schemas = schemas := by
  -- Each name lists itself and nothing else.
  have hnames : schemas.flatMap commaParts = schemas := by
    rw [List.flatMap_congr fun name hname => (h.names name hname).commaParts_eq,
      List.flatMap_singleton']
  rw [schemaList_of_ne_nil (hnames.symm ▸ h.ne_nil), hnames, eraseDups_of_nodup h.nodup]

/-- Lists of the same names are resolved to the same schemas. -/
theorem schemaList_intercalate (entries : List String) :
    schemaList [",".intercalate entries] = schemaList entries := by
  rw [schemaList, List.flatMap_singleton, commaParts_intercalate]
  rfl

/-! ### Resolution -/

/-- The list of schemas has no part in the other settings. -/
theorem Settings.resolve_schema (values : SettingValues) (entries : List String) :
    resolve { values with schema := some entries } =
      (resolve values).map fun settings => { settings with schemas := schemaList entries } := by
  unfold resolve
  dsimp only
  split <;> rfl

/-- The schemas of the settings are those of the list, which may be missing. -/
theorem Settings.schemas_of_resolve {values : SettingValues} {settings : Settings}
    (h : resolve values = .ok settings) :
    settings.schemas = schemaList (values.schema.getD []) := by
  -- Resolving is refused for an empty file name only.
  unfold resolve at h
  dsimp only at h
  split at h
  · cases h
  · rw [← Except.ok.inj h]

/-- No schema is drawn twice. -/
theorem Settings.resolve_schemas_nodup {values : SettingValues} {settings : Settings}
    (h : resolve values = .ok settings) : settings.schemas.Nodup := by
  rw [schemas_of_resolve h]
  exact (schemaList_normal _).nodup

/-- **Lists of schemas.** Every resolved list is in normal form and gives the first occurrences of
the names that its entries list, or the default where they list none; resolved again it stays as it
is. Entries may as well be joined by commas, and so may the values of the flag, however often it
is repeated: the command is the same. -/
theorem schema_lists_normalized :
    (∀ (values : SettingValues) (settings : Settings), Settings.resolve values = .ok settings →
      NormalSchemas settings.schemas ∧
      (∃ names : List (List String),
        List.Forall₂ ListsNames (values.schema.getD []) names ∧
        (names.flatten = [] → settings.schemas = [defaultSchema]) ∧
        (names.flatten ≠ [] → FirstOccurrences names.flatten settings.schemas)) ∧
      Settings.resolve { values with schema := some settings.schemas } = .ok settings) ∧
    (∀ (values : SettingValues) (entries : List String),
      Settings.resolve { values with schema := some [",".intercalate entries] } =
        Settings.resolve { values with schema := some entries }) ∧
    ∀ (front after values joined : List String) (flags : List (List String)) (args : Arguments)
      (command : String) (behind : List String),
      programGrammar.read .initial front = .ok (args, some (command, behind)) →
      command = "render" ∨ command = "snapshot" →
      values ≠ [] → List.Forall₂ SchemaFlag values flags →
      SchemaFlag (",".intercalate values) joined →
        parseArguments (front ++ flags.flatten ++ after) =
          parseArguments (front ++ joined ++ after) := by
  refine ⟨fun values settings h => ?_, fun values entries => ?_,
    fun _ _ _ _ _ _ _ _ hfront => parse_of_joined hfront⟩
  · have hschemas := Settings.schemas_of_resolve h
    have hnormal := schemaList_normal (values.schema.getD [])
    rw [← hschemas] at hnormal
    refine ⟨hnormal, ⟨(values.schema.getD []).map commaParts, ?_, ?_, ?_⟩, ?_⟩
    · -- Entry by entry, the names are those that the entry is split into.
      rw [List.forall₂_map_right_iff, List.forall₂_same]
      exact fun entry _ => listsNames_commaParts entry
    · rw [← List.flatMap_def, hschemas]
      exact schemaList_of_eq_nil
    · rw [← List.flatMap_def, hschemas]
      intro hnames
      rw [schemaList_of_ne_nil hnames]
      exact firstOccurrences_eraseDups _
    · -- The list is in normal form, so it stands for itself.
      rw [Settings.resolve_schema, h, schemaList_of_normal hnormal]
      rfl
  · rw [Settings.resolve_schema, Settings.resolve_schema, schemaList_intercalate]

/-- Entries with commas, blanks and repetitions. -/
def billingValues : SettingValues :=
  { SettingValues.empty with schema := some ["public, billing", "public", " "] }

/-- The schemas are those of both entries, and the flags may be spelled in several ways. -/
theorem schema_lists_normalized_billing :
    ∃ settings, Settings.resolve billingValues = .ok settings ∧
      settings.schemas = ["public", "billing"] ∧
      NormalSchemas settings.schemas ∧
      Settings.resolve { billingValues with schema := some ["public", "billing"] } =
        .ok settings ∧
      parseArguments ["-v", "render", "-s", "public", "--schema=billing", "--strict"] =
        parseArguments ["-v", "render", "--schema", "public,billing", "--strict"] := by
  obtain ⟨hresolved, -, hflags⟩ := schema_lists_normalized
  obtain ⟨settings, hsettings, hschemas⟩ : ∃ settings,
      Settings.resolve billingValues = .ok settings ∧ settings.schemas = ["public", "billing"] :=
    ⟨_, rfl, by decide⟩
  obtain ⟨hnormal, -, hagain⟩ := hresolved billingValues settings hsettings
  refine ⟨settings, hsettings, hschemas, hnormal, hschemas ▸ hagain, ?_⟩
  have hspelled : List.Forall₂ SchemaFlag ["public", "billing"]
      [["-s", "public"], ["--schema=billing"]] :=
    .cons (.letterApart (by simp [Grammar.IsWord])) (.cons .long .nil)
  have hjoined : SchemaFlag (",".intercalate ["public", "billing"])
      ["--schema", "public,billing"] :=
    .longApart (by simp [Grammar.IsWord])
  exact hflags ["-v", "render"] ["--strict"] _ _ _ _ "render" [] rfl (.inl rfl)
    (List.cons_ne_nil _ _) hspelled hjoined

end SchemaDiagram
