import SchemaDiagram.Proofs.FilteredSchemas
import SchemaDiagram.Proofs.Pieces

/-!
# The algebra of filters

A filter takes from a schema the tables that it does not select and the relations that it does not
retain (`Schema.keepOnly`). Which relations it retains depends on the tables of the schema, but not
on whether another filter has gone over them before: of a relation that the other one has retained,
all tables are still there (`TableFilter.retains_apply`). So two filters one after the other keep
what both select and retain (`TableFilter.apply_apply`), in either order.

A filter that selects what two others select does in one step what they do in two
(`TableFilter.Combines`). The lists of patterns that filters are made from are combined by putting
the exclude patterns together (`TableFilter.ofPatterns_append`).
-/

namespace SchemaDiagram

/-! ### Two filters one after the other -/

/-- The schema with only these tables, by their names, and only these relations. -/
def Schema.keepOnly (schema : Schema) (tables : String → Bool) (relations : Relation → Bool) :
    Schema :=
  { schema with
    tables := (schema.tables.filter fun table => tables table.name).map fun table =>
      { table with relations := table.relations.filter relations } }

/-- Keeping only some and then only others is keeping what both keep. -/
theorem Schema.keepOnly_keepOnly (schema : Schema) (tables tables' : String → Bool)
    (relations relations' : Relation → Bool) :
    (schema.keepOnly tables relations).keepOnly tables' relations' =
      schema.keepOnly (fun name => tables name && tables' name)
        fun relation => relations relation && relations' relation := by
  simp only [keepOnly, List.filter_map, List.map_map, List.filter_filter, Function.comp_def,
    Bool.and_comm]

namespace TableFilter

variable {f g both : TableFilter} {schema : Schema} {relation : Relation}

/-- A filter keeps the tables that it selects and the relations that it retains. -/
theorem apply_eq_keepOnly (f : TableFilter) (schema : Schema) :
    f.apply schema = schema.keepOnly f.selects (f.retains schema) :=
  f.apply_eq schema

/-- Without patterns, every relation is retained. -/
theorem retains_of_isEmpty (h : f.isEmpty) (schema : Schema) (relation : Relation) :
    f.retains schema relation := by
  rw [retains, h, Bool.true_or]

/-- **A retained relation** is judged by another filter as if no table had been taken out. -/
theorem retains_apply (h : f.retains schema relation) :
    g.retains (f.apply schema) relation = g.retains schema relation := by
  by_cases hg : g.isEmpty
  · rw [retains_of_isEmpty hg, retains_of_isEmpty hg]
  by_cases hf : f.isEmpty
  · rw [apply, if_pos hf]
  -- The tables that are looked at are selected by the first filter, so they are still there.
  obtain ⟨⟨-, hsource⟩, htarget, hjoin⟩ := (retains_iff hf).1 h
  have hstill : ∀ name, f.selects name →
      (name ∈ (f.apply schema).tableNames ↔ name ∈ schema.tableNames) := by
    intro name hname
    rw [apply_tableNames, List.mem_filter]
    exact and_iff_left hname
  rw [Bool.eq_iff_iff, retains_iff hg, retains_iff hg, hstill _ hsource]
  -- Source, target and join table are asked for one after the other.
  refine and_congr_right fun _ => and_congr ?_ ?_
  · refine forall_congr' fun hstays => ?_
    rw [hstill _ (htarget hstays).2]
  · refine forall₂_congr fun join hmem => ?_
    rw [hstill _ (hjoin join hmem).2]

/-- **Two filters one after the other** keep what both select and retain. -/
theorem apply_apply (f g : TableFilter) (schema : Schema) :
    g.apply (f.apply schema) =
      schema.keepOnly (fun name => f.selects name && g.selects name)
        fun relation => f.retains schema relation && g.retains schema relation := by
  have hretains : ∀ relation,
      (f.retains schema relation && g.retains (f.apply schema) relation) =
        (f.retains schema relation && g.retains schema relation) := by
    intro relation
    -- A relation that the first filter drops does not come before the second one.
    cases h : f.retains schema relation with
    | false => rfl
    | true => rw [retains_apply h]
  rw [apply_eq_keepOnly g, apply_eq_keepOnly f, Schema.keepOnly_keepOnly, ← apply_eq_keepOnly]
  exact congrArg _ (funext hretains)

/-! ### Two filters in one -/

/-- **A combined filter** selects what both filters select, and has patterns if one of them has. -/
structure Combines (both f g : TableFilter) : Prop where
  selects : ∀ name, both.selects name = (f.selects name && g.selects name)
  isEmpty : both.isEmpty = (f.isEmpty && g.isEmpty)

/-- A filter is its own combination with itself. -/
theorem Combines.self (f : TableFilter) : f.Combines f f where
  selects _ := (Bool.and_self _).symm
  isEmpty := (Bool.and_self _).symm

/-- Which filter comes first makes no difference to a combination. -/
theorem Combines.symm (h : both.Combines f g) : both.Combines g f where
  selects name := (h.selects name).trans (Bool.and_comm _ _)
  isEmpty := h.isEmpty.trans (Bool.and_comm _ _)

/-- Combined with a filter without patterns, the other filter is what it was. -/
theorem Combines.retains_of_isEmpty (h : both.Combines f g) (hf : f.isEmpty) (schema : Schema)
    (relation : Relation) : both.retains schema relation = g.retains schema relation := by
  have hselects : both.selects = g.selects := by
    funext name
    rw [h.selects, selects_of_isEmpty hf, Bool.true_and]
  rw [TableFilter.retains, TableFilter.retains, h.isEmpty, hf, Bool.true_and, hselects]

/-- A combined filter retains what both filters retain. -/
theorem Combines.retains (h : both.Combines f g) (schema : Schema) (relation : Relation) :
    both.retains schema relation =
      (f.retains schema relation && g.retains schema relation) := by
  -- A filter without patterns retains everything, so the other one decides.
  by_cases hf : f.isEmpty
  · rw [h.retains_of_isEmpty hf, TableFilter.retains_of_isEmpty hf, Bool.true_and]
  by_cases hg : g.isEmpty
  · rw [h.symm.retains_of_isEmpty hg, TableFilter.retains_of_isEmpty hg, Bool.and_true]
  -- With patterns in both filters, each table that is looked at has to be selected by both.
  have hboth : ¬both.isEmpty := by
    rw [h.isEmpty, Bool.and_eq_true]
    exact fun hempty => hf hempty.1
  rw [Bool.eq_iff_iff, Bool.and_eq_true, retains_iff hboth, retains_iff hf, retains_iff hg]
  simp only [h.selects, Bool.and_eq_true]
  constructor
  · rintro ⟨⟨hmem, hsf, hsg⟩, htarget, hjoin⟩
    exact ⟨⟨⟨hmem, hsf⟩, fun hstays => ⟨(htarget hstays).1, (htarget hstays).2.1⟩,
        fun join hj => ⟨(hjoin join hj).1, (hjoin join hj).2.1⟩⟩,
      ⟨⟨hmem, hsg⟩, fun hstays => ⟨(htarget hstays).1, (htarget hstays).2.2⟩,
        fun join hj => ⟨(hjoin join hj).1, (hjoin join hj).2.2⟩⟩⟩
  · rintro ⟨⟨⟨hmem, hsf⟩, htf, hjf⟩, ⟨⟨-, hsg⟩, htg, hjg⟩⟩
    exact ⟨⟨hmem, hsf, hsg⟩, fun hstays => ⟨(htf hstays).1, (htf hstays).2, (htg hstays).2⟩,
      fun join hj => ⟨(hjf join hj).1, (hjf join hj).2, (hjg join hj).2⟩⟩

/-- **Filtering in one step** does what it does in two. -/
theorem Combines.apply (h : both.Combines f g) (schema : Schema) :
    g.apply (f.apply schema) = both.apply schema := by
  rw [apply_apply, apply_eq_keepOnly both, ← funext h.selects, ← funext (h.retains schema)]

/-- A name is excluded by some pattern of two lists just in case it is by one of the first or one
of the second. -/
theorem Combines.excludes (includes excludes more : List Glob.Pattern) :
    Combines ⟨includes, excludes ++ more⟩ ⟨includes, excludes⟩ ⟨[], more⟩ where
  selects name := by
    simp only [TableFilter.selects, List.any_append, Bool.not_or, List.isEmpty_nil, Bool.true_or,
      Bool.true_and, Bool.and_assoc]
  isEmpty := by
    have happend : (excludes ++ more).isEmpty = (excludes.isEmpty && more.isEmpty) := by
      cases excludes <;> rfl
    simp only [TableFilter.isEmpty, happend, List.isEmpty_nil, Bool.true_and, Bool.and_assoc]

/-! ### Lists of patterns -/

variable {patterns includes excludes more : List String}

/-- Blank patterns count for nothing. -/
theorem compile_filter_isBlankText (patterns : List String) :
    compile (patterns.filter fun pattern => !Text.isBlankText pattern) = compile patterns := by
  have hkeep : ∀ pattern : String,
      (decide (Text.trim pattern ≠ "") && !Text.isBlankText pattern) =
        decide (Text.trim pattern ≠ "") := by
    intro pattern
    -- A pattern is compiled unless it is empty when trimmed, and blank texts are those.
    rw [Bool.eq_iff_iff, Bool.and_eq_true, decide_eq_true_iff, ne_eq, Text.trim_eq_empty_iff,
      Bool.not_eq_true', Bool.not_eq_true, and_self_iff]
  rw [compile, compile, List.filter_map, List.filter_map, List.filter_filter]
  simp only [Function.comp_def, hkeep]

/-- Patterns that compile also compile together. -/
theorem compile_append {compiled compiledMore : List Glob.Pattern}
    (h : compile patterns = .ok compiled) (hmore : compile more = .ok compiledMore) :
    compile (patterns ++ more) = .ok (compiled ++ compiledMore) := by
  rw [compile] at h hmore
  rw [compile, List.map_append, List.filter_append, List.mapM_append, h, hmore]
  rfl

/-- A filter is made from patterns that compile, all of them. -/
theorem ofPatterns_eq_ok :
    ofPatterns includes excludes = .ok f ↔
      compile includes = .ok f.includes ∧ compile excludes = .ok f.excludes := by
  constructor
  · intro h
    -- Include patterns are compiled first.
    obtain ⟨compiled, hcompiled, h⟩ := bind_eq_ok.1 h
    obtain ⟨compiled', hcompiled', h⟩ := bind_eq_ok.1 h
    obtain rfl : (⟨compiled, compiled'⟩ : TableFilter) = f := Except.ok.inj h
    exact ⟨hcompiled, hcompiled'⟩
  · rintro ⟨hincludes, hexcludes⟩
    rw [ofPatterns, hincludes, hexcludes]
    rfl

/-- A filter with more exclude patterns combines the filter without them and the filter of them. -/
theorem ofPatterns_append {first second : TableFilter}
    (hfirst : ofPatterns includes excludes = .ok first)
    (hsecond : ofPatterns [] more = .ok second) :
    ∃ both, ofPatterns includes (excludes ++ more) = .ok both ∧ both.Combines first second := by
  obtain ⟨hincludes, hexcludes⟩ := ofPatterns_eq_ok.1 hfirst
  obtain ⟨hnone, hmore⟩ := ofPatterns_eq_ok.1 hsecond
  -- Without include patterns, the second filter only excludes.
  have hnil : second.includes = [] := (Except.ok.inj hnone).symm
  refine ⟨⟨first.includes, first.excludes ++ second.excludes⟩,
    ofPatterns_eq_ok.2 ⟨hincludes, compile_append hexcludes hmore⟩, ?_⟩
  have hcombines := Combines.excludes first.includes first.excludes second.excludes
  rwa [← hnil] at hcombines

end TableFilter

/-- **The algebra of filters.** Filtering twice by one filter is filtering once, and two filters
come to the same in either order, for any schema. Excluding by more patterns after a filter is
filtering once with those patterns added to the exclude patterns. Blank patterns have no effect, not
even on which patterns are refused. -/
theorem filters_compose (f g : TableFilter) (schema : Schema)
    (includes excludes more : List String) (first second : TableFilter)
    (hfirst : TableFilter.ofPatterns includes excludes = .ok first)
    (hsecond : TableFilter.ofPatterns [] more = .ok second) :
    f.apply (f.apply schema) = f.apply schema ∧
    f.apply (g.apply schema) = g.apply (f.apply schema) ∧
    (∃ both, TableFilter.ofPatterns includes (excludes ++ more) = .ok both ∧
      second.apply (first.apply schema) = both.apply schema) ∧
    ∀ texts texts', TableFilter.ofPatterns texts texts' =
      TableFilter.ofPatterns (texts.filter fun text => !Text.isBlankText text)
        (texts'.filter fun text => !Text.isBlankText text) := by
  refine ⟨(TableFilter.Combines.self f).apply schema, ?_, ?_, fun texts texts' => ?_⟩
  · -- In either order the same tables and relations are kept.
    rw [TableFilter.apply_apply, TableFilter.apply_apply]
    simp only [Bool.and_comm]
  · obtain ⟨both, hboth, hcombines⟩ := TableFilter.ofPatterns_append hfirst hsecond
    exact ⟨both, hboth, hcombines.apply schema⟩
  · -- Blank patterns are left out of both lists before anything is compiled.
    rw [TableFilter.ofPatterns, TableFilter.ofPatterns, TableFilter.compile_filter_isBlankText,
      TableFilter.compile_filter_isBlankText]

/-- The club without its archive, then without the tables whose name starts with an `m`. -/
theorem filters_compose_club :
    (TableFilter.compile ["*"] = .ok everyTable.includes ∧
      TableFilter.compile [" ", "*_old"] = .ok withoutArchive.excludes ∧
      TableFilter.compile ["m*", "\t"] = .ok withoutMemberships.excludes) ∧
    (∃ both, TableFilter.ofPatterns ["*"] [" ", "*_old", "m*", "\t"] = .ok both ∧
      withoutMemberships.apply (TableFilter.apply ⟨everyTable.includes, withoutArchive.excludes⟩
        clubSchema) = both.apply clubSchema) ∧
    (withoutMemberships.apply (withoutArchive.apply clubSchema)).tableNames =
      ["groups", "users"] := by
  -- The patterns compile to those of the filters, which is a matter of evaluation.
  have hall : TableFilter.compile ["*"] = .ok everyTable.includes := by decide +kernel
  have hold : TableFilter.compile [" ", "*_old"] = .ok withoutArchive.excludes := by
    decide +kernel
  have hmemberships : TableFilter.compile ["m*", "\t"] = .ok withoutMemberships.excludes := by
    decide +kernel
  obtain ⟨-, -, hboth, -⟩ := filters_compose everyTable withoutArchive clubSchema ["*"]
    [" ", "*_old"] ["m*", "\t"] ⟨everyTable.includes, withoutArchive.excludes⟩ withoutMemberships
    (TableFilter.ofPatterns_eq_ok.2 ⟨hall, hold⟩) (TableFilter.ofPatterns_eq_ok.2
      ⟨rfl, hmemberships⟩)
  exact ⟨⟨hall, hold, hmemberships⟩, hboth, by decide⟩

end SchemaDiagram
