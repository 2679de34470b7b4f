import SchemaDiagram.Proofs.Results
import SchemaDiagram.Proofs.Validity

/-!
# The violation that validation reports

A catalog is checked schema by schema, and the check ends at the first rule that is broken. Here
the rules and their order are said without the lists of violations that the check goes through:

* `FailsFirst`: a member of a list fails, and all members before it pass;
* `ColumnFails`, `Schema.RelationFails`, `Catalog.CrossFails`: how a column, a relation within its
  schema and a relation across break a rule, each with the error of that rule;
* `Schema.TableFails`, `Schema.FailsWith`, `Catalog.SchemaFails`, `Catalog.FailsWith`: in what
  order they are looked at, one level of the catalog after the other;
* `validation_reports_first_violation`: what is valid is accepted, and of what is not the first
  failure is reported.

Each level has a lemma `firstError_…` on the first entry of its list of violations. These lemmas
follow the way the lists are put together: one list after another (`firstError_append`), a list for
each member (`firstError_flatMap`), or a list for each member given the names of the members before
it (`firstError_remembering`).
-/

namespace SchemaDiagram

/-! ### The first failure in a list -/

section FirstFailure

variable {α ε : Type} {e : ε}

/-- **First failure.** A member of the list fails, and all members before it pass. -/
def FailsFirst (passes fails : α → Prop) (l : List α) : Prop :=
  ∃ before a after, l = before ++ a :: after ∧ (∀ b ∈ before, passes b) ∧ fails a

/-- Where something fails first, something fails. -/
theorem FailsFirst.exists_mem {passes fails : α → Prop} {l : List α}
    (h : FailsFirst passes fails l) : ∃ a ∈ l, fails a := by
  obtain ⟨before, a, after, rfl, -, hfails⟩ := h
  exact ⟨a, List.mem_append_right before List.mem_cons_self, hfails⟩

/-- The first error is the head of the list of errors. -/
theorem firstError_eq_error {errors : List ε} :
    firstError errors = .error e ↔ errors.head? = some e := by
  cases errors with
  | nil => simp [firstError]
  | cons e' errors => simp [firstError]

/-- The first error of two lists is that of the first list, or that of the second if the first one
is empty. -/
theorem firstError_append {errors errors' : List ε} :
    firstError (errors ++ errors') = .error e ↔
      firstError errors = .error e ∨ errors = [] ∧ firstError errors' = .error e := by
  cases errors with
  | nil => simp [firstError]
  | cons e' errors => simp [firstError]

/-- The first error of a check for one property. -/
theorem firstError_ite {p : Prop} [Decidable p] {e' : ε} :
    firstError (if p then [e'] else []) = .error e ↔ p ∧ e = e' := by
  by_cases hp : p
  · rw [if_pos hp, and_iff_right hp, firstError, Except.error.injEq, eq_comm]
  · rw [if_neg hp]
    exact iff_of_false (by simp [firstError]) fun h => hp h.1

/-- The first error of a check that goes over a list. -/
theorem firstError_flatMap {check : α → List ε} {l : List α} :
    firstError (l.flatMap check) = .error e ↔
      FailsFirst (fun a => check a = []) (fun a => firstError (check a) = .error e) l := by
  -- The first error is that of the first member whose own list of errors is not empty.
  rw [firstError_eq_error, List.head?_flatMap, List.findSome?_eq_some_iff]
  simp only [FailsFirst, firstError_eq_error, List.head?_eq_none_iff]
  constructor
  · rintro ⟨before, a, after, hl, hfails, hpasses⟩
    exact ⟨before, a, after, hl, hpasses, hfails⟩
  · rintro ⟨before, a, after, hl, hpasses, hfails⟩
    exact ⟨before, a, after, hl, hfails, hpasses⟩

/-- The first error of a check that reports each member with a property. -/
theorem firstError_filter_map {p : α → Bool} {report : α → ε} {l : List α} :
    firstError ((l.filter p).map report) = .error e ↔
      FailsFirst (fun a => ¬p a) (fun a => p a ∧ e = report a) l := by
  rw [firstError_eq_error, List.head?_map, List.head?_filter, Option.map_eq_some_iff]
  simp only [FailsFirst, List.find?_eq_some_iff_append, Bool.not_eq_true', Bool.not_eq_true]
  constructor
  · rintro ⟨a, ⟨ha, before, after, hl, hpasses⟩, rfl⟩
    exact ⟨before, a, after, hl, hpasses, ha, rfl⟩
  · rintro ⟨before, a, after, hl, hpasses, ha, rfl⟩
    exact ⟨a, ⟨ha, before, after, hl, hpasses⟩, rfl⟩

/-- The first error of a check that goes over a list and remembers the names it has met: the
member that fails does so with the names of all members before it in mind. -/
theorem firstError_remembering (name : α → String) (own : List String → α → List ε)
    (check : List String → List α → List ε) (nil : ∀ seen, check seen [] = [])
    (cons : ∀ seen a l, check seen (a :: l) = own seen a ++ check (name a :: seen) l)
    (seen : List String) (l : List α) :
    firstError (check seen l) = .error e ↔
      ∃ before a after, l = before ++ a :: after ∧ check seen before = [] ∧
        firstError (own ((before.map name).reverse ++ seen) a) = .error e := by
  -- The induction is for any names seen before, since every member that passes adds its own.
  induction l generalizing seen with
  | nil => simp [nil, firstError]
  | cons a l ih =>
    rw [cons, firstError_append, ih]
    constructor
    -- The failure is at this member, or at a later one which has this name in mind.
    · rintro (hfails | ⟨hown, before, b, after, rfl, hpasses, hfails⟩)
      · exact ⟨[], a, l, rfl, nil seen, hfails⟩
      · refine ⟨a :: before, b, after, rfl, ?_, ?_⟩
        · rw [cons, hown, hpasses, List.append_nil]
        · rw [List.map_cons, List.reverse_cons, List.append_assoc]
          exact hfails
    · rintro ⟨before, b, after, hl, hpasses, hfails⟩
      cases before with
      | nil =>
        obtain ⟨rfl, rfl⟩ := List.cons.inj hl
        exact .inl hfails
      | cons c before =>
        -- The first member passes, and its name is remembered from here on.
        obtain ⟨rfl, rfl⟩ := List.cons.inj hl
        rw [cons, List.append_eq_nil_iff] at hpasses
        rw [List.map_cons, List.reverse_cons, List.append_assoc] at hfails
        exact .inr ⟨hpasses.1, before, b, after, rfl, hpasses.2, hfails⟩

end FirstFailure

/-! ### Table names -/

/-- What is repeated depends on which names were seen, and not on how often. -/
theorem repeats_congr {seen seen' : List String} (h : ∀ name, name ∈ seen ↔ name ∈ seen')
    (names : List String) : repeats seen names = repeats seen' names := by
  -- By the names: each is seen by the others.
  induction names generalizing seen seen' with
  | nil => rfl
  | cons name names ih =>
    have hcons : ∀ other, other ∈ name :: seen ↔ other ∈ name :: seen' := by
      intro other
      rw [List.mem_cons, List.mem_cons, h]
    rw [repeats, repeats, ih h, ih hcons]
    simp only [h]

/-- A name is reported where it was seen before, and is seen from there on. -/
theorem repeats_cons (seen : List String) (name : String) (names : List String) :
    repeats seen (name :: names) =
      (if name ∈ seen then [name] else []) ++ repeats (name :: seen) names := by
  by_cases h : name ∈ seen
  · -- A name that was seen is not noted once more.
    have hseen : ∀ other, other ∈ seen ↔ other ∈ name :: seen := by
      intro other
      rw [List.mem_cons]
      exact ⟨.inr, fun h' => h'.elim (fun heq => heq ▸ h) id⟩
    rw [repeats, if_pos h, if_pos h, repeats_congr hseen]
    rfl
  · rw [repeats, if_neg h, if_neg h, List.nil_append]

/-- The first repeated name is the one that occurs among distinct names before it. -/
theorem firstError_repeats {names : List String} {report : String → CatalogError}
    {e : CatalogError} :
    firstError ((repeats [] names).map report) = .error e ↔
      ∃ before name after, names = before ++ name :: after ∧ before.Nodup ∧ name ∈ before ∧
        e = report name := by
  -- In the form in which a check that remembers names is taken apart.
  have hcons : ∀ (seen : List String) (name : String) (names : List String),
      (repeats seen (name :: names)).map report =
        (if name ∈ seen then [report name] else []) ++
          (repeats (name :: seen) names).map report := by
    intro seen name names
    rw [repeats_cons, List.map_append]
    split <;> rfl
  rw [firstError_remembering id _ (fun seen names => (repeats seen names).map report)
    (fun _ => rfl) hcons [] names]
  simp only [firstError_ite, List.map_eq_nil_iff, repeats_eq_nil, List.map_id, List.append_nil,
    List.mem_reverse, List.not_mem_nil, not_false_eq_true, implies_true, and_true]

/-! ### Columns -/

/-- Columns pass if their names are distinct and each of them is sound. -/
def ColumnsPass (columns : List Column) : Prop :=
  (columns.map (·.name)).Nodup ∧ ∀ column ∈ columns, column.Sound

/-- No violation is found in columns just in case they pass. -/
theorem columnViolations_eq_nil_iff_pass {table : String} {columns : List Column} :
    columnViolations table [] columns = [] ↔ ColumnsPass columns := by
  rw [columnViolations_eq_nil, ColumnsPass]
  simp only [List.not_mem_nil, not_false_eq_true, implies_true, and_true]

/-- **A column fails** after the given ones if it repeats the name of one of them, or else if it is
not sound. -/
inductive ColumnFails (table : String) (before : List Column) (column : Column) :
    CatalogError → Prop
  | repeated (known : column.name ∈ before.map (·.name)) :
      ColumnFails table before column (.duplicateColumn table column.name)
  | unsound (new : column.name ∉ before.map (·.name)) (unsound : ¬column.Sound) :
      ColumnFails table before column
        (.unexpectedPrecision table column.name column.type.name)

/-- **The first violation in columns** is that of the first column that fails after others that
pass. -/
theorem firstError_columnViolations {table : String} {columns : List Column} {e : CatalogError} :
    firstError (columnViolations table [] columns) = .error e ↔
      ∃ before column after, columns = before ++ column :: after ∧ ColumnsPass before ∧
        ColumnFails table before column e := by
  have hcons : ∀ (seen : List String) (column : Column) (columns : List Column),
      columnViolations table seen (column :: columns) =
        ((if column.name ∈ seen then [.duplicateColumn table column.name] else []) ++
          if column.precision.isSome ∧ ¬column.type.hasPrecision then
            [.unexpectedPrecision table column.name column.type.name] else []) ++
          columnViolations table (column.name :: seen) columns := fun _ _ _ => rfl
  rw [firstError_remembering Column.name _ (columnViolations table) (fun _ => rfl) hcons]
  simp only [columnViolations_eq_nil_iff_pass, List.append_nil, List.mem_reverse]
  have hunsound : ∀ column : Column,
      (column.precision.isSome ∧ ¬column.type.hasPrecision) ↔ ¬column.Sound := by
    intro column
    rw [Column.Sound, Classical.not_imp]
  simp only [firstError_append, firstError_ite, ite_singleton_eq_nil, hunsound]
  constructor
  · -- A violation of a column is that its name is known, or else that it is unsound.
    rintro ⟨before, column, after, hl, hpasses, ⟨hknown, rfl⟩ | ⟨hnew, hfails, rfl⟩⟩
    · exact ⟨before, column, after, hl, hpasses, .repeated hknown⟩
    · exact ⟨before, column, after, hl, hpasses, .unsound hnew hfails⟩
  · rintro ⟨before, column, after, hl, hpasses, hknown | ⟨hnew, hfails⟩⟩
    · exact ⟨before, column, after, hl, hpasses, .inl ⟨hknown, rfl⟩⟩
    · exact ⟨before, column, after, hl, hpasses, .inr ⟨hnew, hfails, rfl⟩⟩

/-! ### Relations -/

/-- **A relation within its schema fails** if its source is missing, or else its target, or else
the table that owns its key, or else a column of the key: the first that the owner lacks. -/
inductive Schema.RelationFails (schema : Schema) (table : String) (relation : Relation) :
    CatalogError → Prop
  | source (missing : relation.sourceTable ∉ schema.tableNames) :
      schema.RelationFails table relation (.unknownRelationTable table relation.sourceTable)
  | target (source : relation.sourceTable ∈ schema.tableNames)
      (missing : relation.targetTable ∉ schema.tableNames) :
      schema.RelationFails table relation (.unknownRelationTable table relation.targetTable)
  | owner (source : relation.sourceTable ∈ schema.tableNames)
      (target : relation.targetTable ∈ schema.tableNames)
      (missing : relation.keyOwner ∉ schema.tableNames) :
      schema.RelationFails table relation (.unknownRelationTable table relation.keyOwner)
  | column (source : relation.sourceTable ∈ schema.tableNames)
      (target : relation.targetTable ∈ schema.tableNames) (owner : Table)
      (found : schema.table? relation.keyOwner = some owner)
      (before : List String) (column : String) (after : List String)
      (columns : relation.foreignKey.columns = before ++ column :: after)
      (passed : ∀ name ∈ before, name ∈ owner.columns.map (·.name))
      (missing : column ∉ owner.columns.map (·.name)) :
      schema.RelationFails table relation
        (.unknownForeignKeyColumn relation.keyOwner relation.foreignKey.name column)

/-- A column that is not looked up with success is not in the table. -/
theorem Table.column?_isNone {table : Table} {name : String} :
    (table.column? name).isNone ↔ name ∉ table.columns.map (·.name) := by
  rw [← Table.column?_isSome]
  cases table.column? name <;> simp

/-- **The first violation of a relation within its schema** is that of the first rule it breaks. -/
theorem Schema.firstError_localViolations {schema : Schema} {table : String}
    {relation : Relation} {e : CatalogError} :
    firstError (schema.localViolations table relation) = .error e ↔
      schema.RelationFails table relation e := by
  -- The ends are looked at one after the other.
  have hends : ([relation.sourceTable, relation.targetTable].filter
      fun name => decide (name ∉ schema.tableNames)).map
        (CatalogError.unknownRelationTable table ·) =
      (if relation.sourceTable ∉ schema.tableNames then
        [.unknownRelationTable table relation.sourceTable] else []) ++
      if relation.targetTable ∉ schema.tableNames then
        [.unknownRelationTable table relation.targetTable] else [] := by
    by_cases hsource : relation.sourceTable ∈ schema.tableNames <;>
      by_cases htarget : relation.targetTable ∈ schema.tableNames <;> simp [hsource, htarget]
  rw [localViolations, hends, firstError_append, firstError_append, List.append_eq_nil_iff]
  simp only [firstError_ite, ite_singleton_eq_nil, Classical.not_not]
  constructor
  · rintro ((⟨hsource, rfl⟩ | ⟨hsource, htarget, rfl⟩) | ⟨⟨hsource, htarget⟩, hkey⟩)
    · exact .source hsource
    · exact .target hsource htarget
    · -- Columns are looked up only if there is an owner to have them.
      cases hfound : schema.table? relation.keyOwner with
      | none =>
        rw [hfound] at hkey
        obtain rfl := Except.error.inj hkey
        refine .owner hsource htarget ?_
        rw [← Schema.table?_isSome, hfound]
        exact Bool.false_ne_true
      | some owner =>
        rw [hfound, firstError_filter_map] at hkey
        simp only [Table.column?_isNone, Classical.not_not] at hkey
        obtain ⟨before, column, after, hcolumns, hpassed, hmissing, rfl⟩ := hkey
        exact .column hsource htarget owner hfound before column after hcolumns hpassed hmissing
  · -- The other way round each failure is the first error at its own place.
    rintro (hsource | ⟨hsource, htarget⟩ | ⟨hsource, htarget, hmissing⟩ |
      ⟨hsource, htarget, owner, hfound, before, column, after, hcolumns, hpassed, hmissing⟩)
    · exact .inl (.inl ⟨hsource, rfl⟩)
    · exact .inl (.inr ⟨hsource, htarget, rfl⟩)
    · refine .inr ⟨⟨hsource, htarget⟩, ?_⟩
      have hnone : schema.table? relation.keyOwner = none := by
        rw [← Option.not_isSome_iff_eq_none, Schema.table?_isSome]
        exact hmissing
      rw [hnone]
      rfl
    · refine .inr ⟨⟨hsource, htarget⟩, ?_⟩
      rw [hfound, firstError_filter_map]
      simp only [Table.column?_isNone, Classical.not_not]
      exact ⟨before, column, after, hcolumns, hpassed, hmissing, rfl⟩

/-- **A relation across fails** if it does not reach its target. -/
inductive Catalog.CrossFails (catalog : Catalog) (schema : Schema) (table : String)
    (relation : Relation) : CatalogError → Prop
  | intro (target : String) (across : relation.targetSchema = some target)
      (missing : ¬catalog.Reaches schema relation target) :
      catalog.CrossFails schema table relation
        (.unknownRelationTable table (target ++ "." ++ relation.targetTable))

/-- **The first violation of a relation across** is that it does not reach its target. -/
theorem Catalog.firstError_crossViolations {catalog : Catalog} {schema : Schema} {table : String}
    {relation : Relation} {e : CatalogError} :
    firstError (catalog.crossViolations schema table relation) = .error e ↔
      catalog.CrossFails schema table relation e := by
  cases hacross : relation.targetSchema with
  -- Nothing is asked of a relation that stays in its schema.
  | none =>
    rw [crossViolations, hacross]
    refine iff_of_false (by simp [firstError]) ?_
    rintro ⟨target, htarget, -⟩
    rw [hacross] at htarget
    cases htarget
  | some target =>
    have hpasses : catalog.crossViolations schema table relation = [] ↔
        catalog.Reaches schema relation target := by
      rw [crossViolations_eq_nil, hacross]
      simp only [Option.some.injEq, forall_eq']
    -- The two conditions of the check fail together just in case the target is not reached.
    rw [crossViolations, hacross] at hpasses ⊢
    rw [ite_singleton_eq_nil] at hpasses
    rw [firstError_ite, ← Classical.not_not (a := _ ∨ _), hpasses]
    constructor
    · rintro ⟨hmissing, rfl⟩
      exact .intro target hacross hmissing
    · rintro ⟨target', htarget, hmissing⟩
      obtain rfl : target = target' := Option.some.inj (hacross.symm.trans htarget)
      exact ⟨hmissing, rfl⟩

/-! ### Tables, schemas and the catalog -/

/-- A table passes within its schema if its columns do and each of its relations that stays in the
schema holds. -/
def Schema.TablePasses (schema : Schema) (table : Table) : Prop :=
  ColumnsPass table.columns ∧
    ∀ relation ∈ table.relations, relation.targetSchema = none → schema.Holds relation

/-- **A table fails** by its first column that fails, or else by the first of its relations within
the schema that does. -/
inductive Schema.TableFails (schema : Schema) (table : Table) (e : CatalogError) : Prop
  | column (before : List Column) (column : Column) (after : List Column)
      (columns : table.columns = before ++ column :: after) (passed : ColumnsPass before)
      (fails : ColumnFails table.name before column e)
  | relation (columns : ColumnsPass table.columns)
      (first : FailsFirst schema.Holds (schema.RelationFails table.name · e)
        (table.relations.filter (·.targetSchema.isNone)))

/-- A schema passes by itself if its table names are distinct and its tables pass. -/
def Schema.Passes (schema : Schema) : Prop :=
  schema.tableNames.Nodup ∧ ∀ table ∈ schema.tables, schema.TablePasses table

/-- **A schema fails** by itself by its first table name that is a repetition, or else by its first
table that fails. -/
inductive Schema.FailsWith (schema : Schema) : CatalogError → Prop
  | tableName (before : List String) (name : String) (after : List String)
      (names : schema.tableNames = before ++ name :: after) (distinct : before.Nodup)
      (repeated : name ∈ before) : schema.FailsWith (.duplicateTable schema.name name)
  | table (distinct : schema.tableNames.Nodup) (e : CatalogError)
      (first : FailsFirst schema.TablePasses (schema.TableFails · e) schema.tables) :
      schema.FailsWith e

/-- A relation passes across if it reaches the target schema that it names, if any. -/
def Catalog.RelationPasses (catalog : Catalog) (schema : Schema) (relation : Relation) : Prop :=
  ∀ target, relation.targetSchema = some target → catalog.Reaches schema relation target

/-- A schema passes in its catalog if it passes by itself and all its relations pass across. -/
def Catalog.SchemaPasses (catalog : Catalog) (schema : Schema) : Prop :=
  schema.Passes ∧ ∀ table ∈ schema.tables, ∀ relation ∈ table.relations,
    catalog.RelationPasses schema relation

/-- **A schema fails** in its catalog by itself, or else by the first relation across that fails, in
the first table that has one. -/
inductive Catalog.SchemaFails (catalog : Catalog) (schema : Schema) (e : CatalogError) : Prop
  | inside (fails : schema.FailsWith e)
  | across (passes : schema.Passes)
      (first : FailsFirst
        (fun table => ∀ relation ∈ table.relations, catalog.RelationPasses schema relation)
        (fun table => FailsFirst (catalog.RelationPasses schema)
          (catalog.CrossFails schema table.name · e) table.relations) schema.tables)

/-- **A catalog fails** by its first schema that does. -/
def Catalog.FailsWith (catalog : Catalog) (e : CatalogError) : Prop :=
  FailsFirst catalog.SchemaPasses (catalog.SchemaFails · e) catalog.schemas

/-- No violation is found in a table just in case it passes. -/
theorem Schema.tableViolations_eq_nil_iff_passes {schema : Schema} {table : Table} :
    schema.tableViolations table = [] ↔ schema.TablePasses table := by
  rw [Schema.tableViolations_eq_nil, Schema.TablePasses, ColumnsPass, and_assoc]

/-- No violation is found in a schema by itself just in case it passes. -/
theorem Schema.violations_eq_nil_iff_passes {schema : Schema} :
    schema.violations = [] ↔ schema.Passes := by
  simp only [Schema.violations_eq_nil, Schema.tableViolations_eq_nil_iff_passes, Schema.Passes]

/-- Validation accepts a schema by itself just in case it passes. -/
theorem Schema.validate_eq_ok {schema : Schema} : schema.validate = .ok () ↔ schema.Passes := by
  rw [Schema.validate, firstError_eq_ok, Schema.violations_eq_nil_iff_passes]

/-- **The first violation in a table** is in its columns, or else in its relations. -/
theorem Schema.firstError_tableViolations {schema : Schema} {table : Table} {e : CatalogError} :
    firstError (schema.tableViolations table) = .error e ↔ schema.TableFails table e := by
  rw [Schema.tableViolations, firstError_append, firstError_columnViolations,
    columnViolations_eq_nil_iff_pass, firstError_flatMap]
  simp only [Schema.localViolations_eq_nil, Schema.firstError_localViolations]
  constructor
  · rintro (⟨before, column, after, hcolumns, hpassed, hfails⟩ | ⟨hcolumns, hfirst⟩)
    · exact .column before column after hcolumns hpassed hfails
    · exact .relation hcolumns hfirst
  · rintro (⟨before, column, after, hcolumns, hpassed, hfails⟩ | ⟨hcolumns, hfirst⟩)
    · exact .inl ⟨before, column, after, hcolumns, hpassed, hfails⟩
    · exact .inr ⟨hcolumns, hfirst⟩

/-- **The first violation in a schema** is a repeated table name, or else in one of its tables. -/
theorem Schema.firstError_violations {schema : Schema} {e : CatalogError} :
    firstError schema.violations = .error e ↔ schema.FailsWith e := by
  rw [Schema.violations, firstError_append, firstError_repeats, List.map_eq_nil_iff,
    repeats_eq_nil, firstError_flatMap]
  simp only [Schema.tableViolations_eq_nil_iff_passes, Schema.firstError_tableViolations,
    List.not_mem_nil, not_false_eq_true, implies_true, and_true]
  constructor
  · rintro (⟨before, name, after, hnames, hdistinct, hrepeated, rfl⟩ | ⟨hdistinct, hfirst⟩)
    · exact .tableName before name after hnames hdistinct hrepeated
    · exact .table hdistinct e hfirst
  · rintro (⟨before, name, after, hnames, hdistinct, hrepeated⟩ | ⟨hdistinct, _, hfirst⟩)
    · exact .inl ⟨before, name, after, hnames, hdistinct, hrepeated, rfl⟩
    · exact .inr ⟨hdistinct, hfirst⟩

/-- **The first violation in a catalog** is that of the first schema that fails. -/
theorem Catalog.validate_eq_error {catalog : Catalog} {e : CatalogError} :
    catalog.validate = .error e ↔ catalog.FailsWith e := by
  rw [Catalog.validate, Catalog.violations, firstError_flatMap, Catalog.FailsWith]
  simp only [List.append_eq_nil_iff, firstError_append, firstError_flatMap,
    List.flatMap_eq_nil_iff, Schema.violations_eq_nil_iff_passes, Schema.firstError_violations,
    Catalog.crossViolations_eq_nil, Catalog.firstError_crossViolations]
  -- What is left are the two ways in which a schema fails in its catalog.
  have hfails : ∀ schema : Schema, schema.FailsWith e ∨ schema.Passes ∧ FailsFirst
      (fun table => ∀ relation ∈ table.relations, catalog.RelationPasses schema relation)
      (fun table => FailsFirst (catalog.RelationPasses schema)
        (catalog.CrossFails schema table.name · e) table.relations) schema.tables ↔
      catalog.SchemaFails schema e := by
    intro schema
    constructor
    -- By itself, or in its relations across after it has passed by itself.
    · rintro (hinside | ⟨hpasses, hfirst⟩)
      · exact .inside hinside
      · exact .across hpasses hfirst
    · rintro (hinside | ⟨hpasses, hfirst⟩)
      · exact .inl hinside
      · exact .inr ⟨hpasses, hfirst⟩
  simp only [← hfails]
  rfl

/-- **Validation** accepts just the valid catalogs, and of any other catalog it reports what fails
first. -/
theorem validation_reports_first_violation (catalog : Catalog) :
    (catalog.validate = .ok () ↔ catalog.Valid) ∧
      ∀ e, catalog.validate = .error e ↔ catalog.FailsWith e :=
  ⟨Catalog.validate_eq_ok, fun _ => Catalog.validate_eq_error⟩

end SchemaDiagram
