import SchemaDiagram.Command.Run
import SchemaDiagram.Proofs.FilterAlgebra
import SchemaDiagram.Proofs.Results
import SchemaDiagram.Proofs.SchemaLists

/-!
# Lists that name nothing

A layer may give a list that names nothing: one without entries, or one whose entries are blank. An
overlay looks for entries and not for names. So a list without entries leaves the list below in
force, and a list of blank entries hides it and then comes to nothing itself: the schemas are
the default, and no table is selected or excluded by a pattern (`blank_lists_hide_unless_empty`).

On the command line, patterns are taken apart before they become a layer, and blank ones leave
no entry; the values of the flag for schemas keep an entry each. So a blank value of the
first kind of flag leaves the configuration file in force, and one of the second hides its
schemas (`blank_schema_hides_file`).
-/

namespace SchemaDiagram

/-! ### Blank entries -/

/-- **No names:** every part between the commas of every entry is blank. -/
def NamesNothing (entries : List String) : Prop :=
  ∀ entry ∈ entries, ∀ part ∈ Text.splitOn ',' entry, Text.isBlankText part

instance (entries : List String) : Decidable (NamesNothing entries) :=
  inferInstanceAs (Decidable (∀ entry ∈ entries, ∀ part ∈ Text.splitOn ',' entry,
    Text.isBlankText part))

/-- **No patterns:** every entry is blank. -/
def AllBlank (entries : List String) : Prop := ∀ entry ∈ entries, Text.isBlankText entry

/-- An entry is split into no names just in case all its parts are blank. -/
theorem commaParts_eq_nil_iff {entry : String} :
    commaParts entry = [] ↔ ∀ part ∈ Text.splitOn ',' entry, Text.isBlankText part := by
  rw [commaParts, List.filter_eq_nil_iff, List.forall_mem_map]
  simp only [ne_eq, decide_not, Bool.not_eq_true', decide_eq_false_iff_not, not_not,
    Text.trim_eq_empty_iff]

/-- A list that names nothing stands for the default schema. -/
theorem schemaList_of_namesNothing {entries : List String} (h : NamesNothing entries) :
    schemaList entries = [defaultSchema] := by
  refine schemaList_of_eq_nil (List.flatMap_eq_nil_iff.2 fun entry hentry => ?_)
  exact commaParts_eq_nil_iff.2 (h entry hentry)

/-- Blank patterns select nothing: they are left out before the others are compiled. -/
theorem TableFilter.compile_of_allBlank {patterns : List String} (h : AllBlank patterns) :
    compile patterns = .ok [] := by
  have hnone : (patterns.filter fun pattern => !Text.isBlankText pattern) = [] := by
    refine List.filter_eq_nil_iff.2 fun pattern hpattern => ?_
    rw [h pattern hpattern]
    exact Bool.false_ne_true
  rw [← compile_filter_isBlankText, hnone]
  rfl

/-! ### Overlaid lists -/

namespace SettingValues

/-- The list in force: that of the upper layer if it has entries. -/
theorem overlayList_getD (lower upper : Option (List String)) :
    (overlayList lower upper).getD [] =
      if upper.getD [] = [] then lower.getD [] else upper.getD [] := by
  -- A list is missing, empty or has an entry, and only the last kind counts.
  rcases upper with _ | _ | ⟨entry, entries⟩ <;> rfl

/-- A list without entries is as good as none. -/
theorem overlayList_some_nil (lower : Option (List String)) :
    overlayList lower (some []) = overlayList lower none := rfl

end SettingValues

section Resolved

variable {values : SettingValues} {settings : Settings}

/-- Only the name of the file to write may be refused. -/
theorem Settings.exists_resolve_iff :
    (∃ settings, resolve values = .ok settings) ↔ values.filename ≠ some "" := by
  have hempty : values.filename.getD "output.txt" = "" ↔ values.filename = some "" := by
    cases values.filename with
    | none => decide
    | some filename => simp
  -- A missing name gets a default that is not empty.
  rw [← not_isError_iff, resolve]
  split
  · next h => exact iff_of_false (not_not_intro (isError_error _)) (not_not_intro (hempty.1 h))
  · next h => exact iff_of_true (not_isError_ok _) (mt hempty.2 h)

/-- The lists of patterns are resolved to what they are. -/
theorem Settings.patterns_of_resolve (h : resolve values = .ok settings) :
    settings.tables = values.tables.getD [] ∧ settings.exclude = values.exclude.getD [] := by
  unfold resolve at h
  dsimp only at h
  split at h
  · cases h
  · rw [← Except.ok.inj h]
    exact ⟨rfl, rfl⟩

end Resolved

section Overlaid

variable {lower upper : SettingValues} {low merged : Settings}

/-- **Schemas under a list without names:** they are those below if the list has no entries, and the
default if it has some. -/
theorem schemas_of_namesNothing (hlow : Settings.resolve lower = .ok low)
    (hmerged : Settings.resolve (lower.overlay upper) = .ok merged)
    (h : NamesNothing (upper.schema.getD [])) :
    merged.schemas = if upper.schema.getD [] = [] then low.schemas else [defaultSchema] := by
  rw [Settings.schemas_of_resolve hmerged, Settings.schemas_of_resolve hlow,
    SettingValues.overlay, SettingValues.overlayList_getD]
  split
  · rfl
  · -- The list has entries, so it counts although they name nothing.
    exact schemaList_of_namesNothing h

/-- **Patterns under a list of blank ones:** they are those below if the list has no entries, and
none if it has some. -/
theorem compile_overlayList {below above : Option (List String)} (h : AllBlank (above.getD [])) :
    TableFilter.compile ((SettingValues.overlayList below above).getD []) =
      if above.getD [] = [] then TableFilter.compile (below.getD []) else .ok [] := by
  rw [SettingValues.overlayList_getD]
  split
  · rfl
  · exact TableFilter.compile_of_allBlank h

end Overlaid

/-! ### Blank flags -/

section Flags

variable {env : Environment}

/-- **Blank patterns on the command line** are as good as none. -/
theorem RenderOptions.settings_of_blank_patterns {options : RenderOptions} {tables exclude : String}
    (htables : commaParts tables = []) (hexclude : commaParts exclude = []) :
    options.source.settings env { options with tables := some tables }.values =
        options.source.settings env { options with tables := none }.values ∧
      options.source.settings env { options with exclude := some exclude }.values =
        options.source.settings env { options with exclude := none }.values := by
  -- The entries of the two flags are gone before the layer is made.
  simp only [SourceOptions.settings, RenderOptions.values, patternList, SettingValues.overlay,
    Option.map_some, Option.map_none, htables, hexclude, SettingValues.overlayList_some_nil,
    and_self]

/-- **Blank schemas on the command line** hide those of the configuration file. -/
theorem SourceOptions.schemas_of_blank_flag {options : SourceOptions} {top : SettingValues}
    {settings : Settings} (hgiven : options.schema ≠ []) (hblank : NamesNothing options.schema)
    (htop : top.schema = none) (h : options.settings env top = .ok settings) :
    settings.schemas = [defaultSchema] := by
  obtain ⟨file, -, hresolve⟩ := bind_eq_ok.1 h
  rw [Settings.schemas_of_resolve (mapError_eq_ok.1 hresolve)]
  -- The uppermost layer has no list of schemas, and the flags have one with an entry.
  have hentries := calc
    ((file.overlay options.values).overlay top).schema.getD []
      = (file.overlay options.values).schema.getD [] := by
        refine (SettingValues.overlayList_getD _ top.schema).trans (if_pos ?_)
        rw [htop]
        rfl
    _ = options.schema := (SettingValues.overlayList_getD _ _).trans (if_neg hgiven)
  rw [hentries]
  exact schemaList_of_namesNothing hblank

end Flags

/-- **Lists that name nothing.** Laid over other settings, a list without entries changes nothing of
them. One with entries hides the list below: the schemas are the default then, which are those
below only if these are the default as well, and there are no patterns, whatever those below
are. On the command line, blank patterns are no entries, and blank schemas are. -/
theorem blank_lists_hide_unless_empty (lower upper : SettingValues) :
    ((∃ merged, Settings.resolve (lower.overlay upper) = .ok merged) ↔
      upper.filename.or lower.filename ≠ some "") ∧
    (∀ low merged, Settings.resolve lower = .ok low →
      Settings.resolve (lower.overlay upper) = .ok merged →
        (NamesNothing (upper.schema.getD []) →
          merged.schemas = (if upper.schema.getD [] = [] then low.schemas else [defaultSchema]) ∧
          (merged.schemas = low.schemas ↔
            upper.schema.getD [] = [] ∨ low.schemas = [defaultSchema])) ∧
        (AllBlank (upper.tables.getD []) →
          TableFilter.compile merged.tables =
            if upper.tables.getD [] = [] then TableFilter.compile low.tables else .ok []) ∧
        (AllBlank (upper.exclude.getD []) →
          TableFilter.compile merged.exclude =
            if upper.exclude.getD [] = [] then TableFilter.compile low.exclude else .ok []) ∧
        (upper.tables.getD [] = [] → upper.exclude.getD [] = [] →
          TableFilter.ofPatterns merged.tables merged.exclude =
            TableFilter.ofPatterns low.tables low.exclude)) ∧
    ∀ (env : Environment) (options : RenderOptions),
      (∀ tables exclude, commaParts tables = [] → commaParts exclude = [] →
        options.source.settings env { options with tables := some tables }.values =
          options.source.settings env { options with tables := none }.values ∧
        options.source.settings env { options with exclude := some exclude }.values =
          options.source.settings env { options with exclude := none }.values) ∧
      (options.source.schema ≠ [] → NamesNothing options.source.schema →
        ∀ settings, options.source.settings env options.values = .ok settings →
          settings.schemas = [defaultSchema]) := by
  refine ⟨Settings.exists_resolve_iff, fun low merged hlow hmerged => ?_, fun env options =>
    ⟨fun tables exclude => RenderOptions.settings_of_blank_patterns, fun hgiven hblank settings =>
      SourceOptions.schemas_of_blank_flag hgiven hblank rfl⟩⟩
  obtain ⟨htables, hexclude⟩ := Settings.patterns_of_resolve hmerged
  obtain ⟨hlowTables, hlowExclude⟩ := Settings.patterns_of_resolve hlow
  have hcompileTables : AllBlank (upper.tables.getD []) →
      TableFilter.compile merged.tables =
        if upper.tables.getD [] = [] then TableFilter.compile low.tables else .ok [] := by
    rw [htables, hlowTables]
    exact compile_overlayList
  have hcompileExclude : AllBlank (upper.exclude.getD []) →
      TableFilter.compile merged.exclude =
        if upper.exclude.getD [] = [] then TableFilter.compile low.exclude else .ok [] := by
    rw [hexclude, hlowExclude]
    exact compile_overlayList
  refine ⟨fun hnames => ?_, hcompileTables, hcompileExclude, fun hno hno' => ?_⟩
  -- What is left of the schemas of both lists is compared.
  · have hschemas := schemas_of_namesNothing hlow hmerged hnames
    refine ⟨hschemas, ?_⟩
    rw [hschemas]
    split
    · -- Without entries the schemas are those below.
      next hempty => exact iff_of_true rfl (.inl hempty)
    · -- With entries they are the default, which may be what stands below anyway.
      next hentries =>
      rw [or_iff_right hentries]
      exact eq_comm
  · -- A list without entries is blank, so both lists of patterns are those below.
    have hempty : ∀ entries : List String, entries = [] → AllBlank entries := by
      rintro _ rfl entry hentry
      exact absurd hentry List.not_mem_nil
    rw [TableFilter.ofPatterns, TableFilter.ofPatterns, hcompileTables (hempty _ hno),
      hcompileExclude (hempty _ hno'), if_pos hno, if_pos hno']

/-- A configuration file that lists one schema and a pattern for its tables. -/
def invoiceFile : SettingValues :=
  { SettingValues.empty with schema := some ["billing"], tables := some ["inv*"] }

/-- Flags without a schema, and with a pattern that is blank. -/
def bareOptions : RenderOptions where
  source := Arguments.initial.source
  filename := none
  catalog := none
  strict := false
  tables := some " ,"
  exclude := none

/-- These flags leave the file in force. -/
theorem blank_lists_hide_unless_empty_invoices :
    ∃ low merged, Settings.resolve invoiceFile = .ok low ∧
      Settings.resolve (invoiceFile.overlay
        (bareOptions.source.values.overlay bareOptions.values)) = .ok merged ∧
      NamesNothing ((bareOptions.source.values.overlay bareOptions.values).schema.getD []) ∧
      AllBlank ((bareOptions.source.values.overlay bareOptions.values).tables.getD []) ∧
      merged.schemas = low.schemas ∧
      TableFilter.compile merged.tables = TableFilter.compile low.tables := by
  obtain ⟨hresolves, hlists, -⟩ := blank_lists_hide_unless_empty invoiceFile
    (bareOptions.source.values.overlay bareOptions.values)
  obtain ⟨merged, hmerged⟩ := hresolves.2 (by decide)
  obtain ⟨low, hlow⟩ : ∃ low, Settings.resolve invoiceFile = .ok low := ⟨_, rfl⟩
  have hnames : NamesNothing
      ((bareOptions.source.values.overlay bareOptions.values).schema.getD []) := by decide
  have hblank : AllBlank
      ((bareOptions.source.values.overlay bareOptions.values).tables.getD []) := by
    intro entry hentry
    exact absurd hentry List.not_mem_nil
  obtain ⟨hschemas, htables, -⟩ := hlists low merged hlow hmerged
  exact ⟨low, merged, hlow, hmerged, hnames, hblank, (hschemas hnames).1, htables hblank⟩

/-- A layer with a blank entry in its lists. -/
def blankLayer : SettingValues :=
  { SettingValues.empty with schema := some [" , "], tables := some [" "] }

/-- Flags with an empty value for the schemas. -/
def blankFlag : Arguments := { Arguments.initial with values := [(.schema, "")] }

/-- **Hidden lists:** blank entries hide the schemas and the patterns of a file, and so does an
empty flag the schemas. -/
theorem blank_schema_hides_file :
    NamesNothing (blankLayer.schema.getD []) ∧ AllBlank (blankLayer.tables.getD []) ∧
    ∃ low merged flagged, Settings.resolve invoiceFile = .ok low ∧
      Settings.resolve (invoiceFile.overlay blankLayer) = .ok merged ∧
      Settings.resolve (invoiceFile.overlay blankFlag.source.values) = .ok flagged ∧
      low.schemas = ["billing"] ∧ merged.schemas = ["public"] ∧ flagged.schemas = ["public"] ∧
      (TableFilter.ofPatterns low.tables low.exclude).map (·.selects "orders") = .ok false ∧
      (TableFilter.ofPatterns merged.tables merged.exclude).map (·.selects "orders") =
        .ok true := by
  have hblank : AllBlank (blankLayer.tables.getD []) := by
    intro entry hentry
    obtain rfl := List.mem_singleton.1 hentry
    decide
  exact ⟨by decide, hblank, _, _, _, rfl, rfl, rfl, by decide, by decide, by decide,
    by decide +kernel, rfl⟩

end SchemaDiagram
