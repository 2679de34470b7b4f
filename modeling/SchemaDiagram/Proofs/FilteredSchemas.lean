import SchemaDiagram.Proofs.ErrorTruth
import SchemaDiagram.Proofs.Selection

/-!
# What a filter leaves of a schema

A filter takes tables out of a schema (`TableFilter.Removes`), and from the tables that stay it
takes relations. `TableFilter.apply_eq` says so for any filter and any schema, and the lemmas after
it say what can still be looked up.

* `filter_preserves_validity`: a schema that is valid by itself is so after filtering, and no
  relation within it refers to a removed table;
* `TableFilter.Spares`: no table to which a relation refers is removed. In a valid catalog this
  decides whether the relation stays, unless its target schema is named and is the schema itself,
  or its join table is not in the schema (`TableFilter.Fate`, `filter_drops_touched_relations`);
* `untouched_relation_dropped`: with a join table in another schema, a relation goes although the
  filter removes nothing.
-/

namespace SchemaDiagram

/-- The join table of the relation, if any, is a table of the schema. -/
def Relation.JoinsWithin (relation : Relation) (schema : Schema) : Prop :=
  ∀ join ∈ relation.join, join.table ∈ schema.tableNames

namespace TableFilter

variable {f : TableFilter} {schema : Schema} {relation : Relation} {name : String}

/-! ### Tables after filtering -/

/-- **Removed table:** a table of the schema that the filter does not select. -/
def Removes (f : TableFilter) (schema : Schema) (name : String) : Prop :=
  name ∈ schema.tableNames ∧ ¬f.selects name

/-- A relation stays with its table. Without any pattern every relation does. -/
def retains (f : TableFilter) (schema : Schema) (relation : Relation) : Bool :=
  f.isEmpty || keepsRelation (schema.tableNames.filter f.selects) relation

/-- What is left of a table that stays. -/
def trim (f : TableFilter) (schema : Schema) (table : Table) : Table :=
  { table with relations := table.relations.filter (f.retains schema) }

/-- **Filtering** selects tables by their names, and relations in each of them. -/
theorem apply_eq (f : TableFilter) (schema : Schema) :
    f.apply schema =
      { schema with
        tables :=
          (schema.tables.filter fun table => f.selects table.name).map (f.trim schema) } := by
  by_cases hempty : f.isEmpty
  · -- Without patterns all tables are selected and all relations stay.
    have htrim : ∀ table, f.trim schema table = table := by
      intro table
      rw [trim, List.filter_eq_self.2]
      intro relation _
      rw [retains, hempty, Bool.true_or]
    have hall : (schema.tables.filter fun table => f.selects table.name) = schema.tables :=
      List.filter_eq_self.2 fun table _ => selects_of_isEmpty hempty table.name
    rw [apply, if_pos hempty, hall, List.map_congr_left fun table _ => htrim table, List.map_id']
  · -- A table of the schema is among the kept ones just in case its name is selected.
    have hkept : (schema.tables.filter fun table =>
        decide (table.name ∈ schema.tableNames.filter f.selects)) =
          schema.tables.filter fun table => f.selects table.name := by
      refine List.filter_congr fun table htable => ?_
      rw [Bool.eq_iff_iff, decide_eq_true_iff, List.mem_filter]
      exact and_iff_right (List.mem_map_of_mem htable)
    have hretains : f.retains schema = keepsRelation (schema.tableNames.filter f.selects) := by
      funext relation
      rw [retains, Bool.eq_false_iff.2 hempty, Bool.false_or]
    rw [apply, if_neg hempty]
    dsimp only
    rw [hkept, ← hretains]
    rfl

/-- The tables that are left are those that the filter selects. -/
theorem apply_tableNames (f : TableFilter) (schema : Schema) :
    (f.apply schema).tableNames = schema.tableNames.filter f.selects := by
  rw [apply_eq, Schema.tableNames, Schema.tableNames, List.filter_map, List.map_map]
  rfl

/-- A selected table is found with what is left of it. -/
theorem apply_table? (h : f.selects name) :
    (f.apply schema).table? name = (schema.table? name).map (f.trim schema) := by
  rw [apply_eq, Schema.table?, Schema.table?, List.find?_map, List.find?_filter]
  -- A table of this name is selected anyway.
  refine congrArg (fun p => (schema.tables.find? p).map (f.trim schema)) (funext fun table => ?_)
  rw [Bool.eq_iff_iff, decide_eq_true_iff, Function.comp_apply, decide_eq_true_iff,
    decide_eq_true_iff]
  refine and_iff_right_of_imp ?_
  rintro rfl
  exact h

/-! ### Relations after filtering -/

/-- **Spared relation:** no table to which it refers is removed. -/
def Spares (f : TableFilter) (schema : Schema) (relation : Relation) : Prop :=
  ∀ name, relation.Touches schema.name name → ¬f.Removes schema name

/-- A selected table is not removed. -/
theorem not_removes (h : f.selects name) : ¬f.Removes schema name := fun hremoved => hremoved.2 h

/-- A table of the schema that is not removed is selected. -/
theorem not_removes_iff (h : name ∈ schema.tableNames) :
    ¬f.Removes schema name ↔ f.selects name := by
  rw [Removes, and_iff_right h, Classical.not_not]

/-- The tables by which a filter with patterns decides on a relation are selected tables of the
schema. -/
theorem retains_iff (h : ¬f.isEmpty) :
    f.retains schema relation ↔
      (relation.sourceTable ∈ schema.tableNames ∧ f.selects relation.sourceTable) ∧
      (relation.targetSchema = none →
        relation.targetTable ∈ schema.tableNames ∧ f.selects relation.targetTable) ∧
      ∀ join ∈ relation.join, join.table ∈ schema.tableNames ∧ f.selects join.table := by
  rw [retains, Bool.eq_false_iff.2 h, Bool.false_or, keepsRelation]
  simp only [Bool.and_eq_true, Bool.or_eq_true, decide_eq_true_eq, List.mem_filter,
    Option.all_eq_true, and_assoc]
  cases relation.targetSchema <;> simp

/-- A relation within the schema that stays refers to selected tables only. -/
theorem selects_of_retains (h : f.retains schema relation) (hstays : relation.targetSchema = none)
    (htouches : relation.Touches schema.name name) : f.selects name := by
  by_cases hempty : f.isEmpty
  · exact selects_of_isEmpty hempty name
  · obtain ⟨⟨-, hsource⟩, htarget, hjoin⟩ := (retains_iff hempty).1 h
    -- By the way in which the relation refers to the table.
    rcases htouches with rfl | ⟨-, rfl⟩ | ⟨join, hmem, rfl⟩
    · exact hsource
    · exact (htarget hstays).2
    · exact (hjoin join hmem).2

/-- A relation within the schema still holds if it stays. -/
theorem holds_apply (h : f.retains schema relation) (hstays : relation.targetSchema = none)
    (hholds : schema.Holds relation) : (f.apply schema).Holds relation := by
  -- So its ends are still there, and so is the owner of the key, with all its columns.
  have hselects : ∀ name, relation.Touches schema.name name → f.selects name :=
    fun name => selects_of_retains h hstays
  obtain ⟨hsource, htarget, owner, hfound, hcolumns⟩ := hholds
  refine ⟨?_, ?_, f.trim schema owner, ?_, hcolumns⟩
  · rw [apply_tableNames, List.mem_filter]
    exact ⟨hsource, hselects _ (.inl rfl)⟩
  · rw [apply_tableNames, List.mem_filter]
    exact ⟨htarget, hselects _ (.inr (.inl ⟨.inl hstays, rfl⟩))⟩
  · rw [apply_table? (hselects _ (Relation.touches_keyOwner hstays schema.name)), hfound]
    rfl

/-- A table after filtering is what is left of a selected table. -/
theorem mem_apply_tables {table : Table} :
    table ∈ (f.apply schema).tables ↔
      ∃ whole ∈ schema.tables, f.selects whole.name ∧ f.trim schema whole = table := by
  rw [apply_eq, List.mem_map]
  simp only [List.mem_filter, and_assoc]

end TableFilter

/-! ### Validity -/

/-- **A schema that passes** still does after filtering. -/
theorem Schema.Passes.apply {schema : Schema} (h : schema.Passes) (f : TableFilter) :
    (f.apply schema).Passes := by
  obtain ⟨hdistinct, htables⟩ := h
  refine ⟨?_, fun table htable => ?_⟩
  · -- The names that are left are as distinct as all of them.
    rw [TableFilter.apply_tableNames]
    exact hdistinct.filter _
  · -- A table that is left has all its columns and fewer relations, each of which held before.
    obtain ⟨whole, hwhole, -, rfl⟩ := TableFilter.mem_apply_tables.1 htable
    obtain ⟨hcolumns, hrelations⟩ := htables whole hwhole
    refine ⟨hcolumns, fun relation hrelation hstays => ?_⟩
    obtain ⟨hrelation, hretains⟩ := List.mem_filter.1 hrelation
    exact TableFilter.holds_apply hretains hstays (hrelations relation hrelation hstays)

/-- **Filtering preserves validity.** A schema that validation accepts is accepted after filtering.
No relation that stays within it refers to a removed table, be it the source, the target or the
join table, and the columns of its key are still on the table that owns the key. -/
theorem filter_preserves_validity (f : TableFilter) (schema : Schema)
    (h : schema.validate = .ok ()) :
    (f.apply schema).validate = .ok () ∧
    ∀ table ∈ (f.apply schema).tables, ∀ relation ∈ table.relations,
      relation.targetSchema = none → f.Spares schema relation ∧
        ∃ owner ∈ (f.apply schema).tables, owner.name = relation.keyOwner ∧
          ∀ column ∈ relation.foreignKey.columns, column ∈ owner.columns.map (·.name) := by
  have hpasses := (Schema.validate_eq_ok.1 h).apply f
  refine ⟨Schema.validate_eq_ok.2 hpasses, fun table htable relation hrelation hstays => ⟨?_, ?_⟩⟩
  · -- The relation was retained, so it refers to no removed table.
    obtain ⟨whole, -, -, rfl⟩ := TableFilter.mem_apply_tables.1 htable
    obtain ⟨-, hretains⟩ := List.mem_filter.1 hrelation
    intro name htouches
    exact TableFilter.not_removes (TableFilter.selects_of_retains hretains hstays htouches)
  · -- The owner of the key is found in the filtered schema, which passes.
    obtain ⟨owner, hfound, hcolumns⟩ := ((hpasses.2 table htable).2 relation hrelation hstays).key
    have hname := List.find?_some hfound
    exact ⟨owner, List.mem_of_find?_eq_some hfound, of_decide_eq_true hname, hcolumns⟩

/-- Users are in groups by memberships, and have written notes, which are archived. -/
def clubSchema : Schema where
  name := "public"
  tables :=
    [⟨"groups", [numberColumn "id"],
      [⟨.oneToMany, "groups", none, "memberships", ⟨"memberships_group_fk", ["group_id"],
        [.column "id"]⟩, none⟩]⟩,
    ⟨"memberships", [numberColumn "user_id", numberColumn "group_id"],
      [⟨.manyToOne, "memberships", none, "users", ⟨"memberships_user_fk", ["user_id"],
        [.column "id"]⟩, none⟩]⟩,
    ⟨"notes_old", [numberColumn "user_id"],
      [⟨.manyToOne, "notes_old", none, "users", ⟨"notes_user_fk", ["user_id"],
        [.column "id"]⟩, none⟩]⟩,
    ⟨"users", [numberColumn "id"],
      [⟨.oneToMany, "users", none, "notes_old", ⟨"notes_user_fk", ["user_id"],
          [.column "id"]⟩, none⟩,
        ⟨.manyToMany, "users", none, "groups", ⟨"memberships_user_fk", ["user_id"],
          [.column "id"]⟩, some ⟨"memberships", ⟨"memberships_group_fk", ["group_id"],
            [.column "id"]⟩⟩⟩]⟩]

/-- The filter that excludes the tables whose name ends with `_old`. -/
def withoutArchive : TableFilter where
  includes := []
  excludes := [⟨[.anySequence, .literal '_', .literal 'o', .literal 'l', .literal 'd']⟩]

/-- The notes go with the relation that leads to them, and all keys keep their columns. -/
theorem filter_preserves_validity_club :
    clubSchema.validate = .ok () ∧ withoutArchive.Removes clubSchema "notes_old" ∧
    (withoutArchive.apply clubSchema).validate = .ok () ∧
    ∀ table ∈ (withoutArchive.apply clubSchema).tables, ∀ relation ∈ table.relations,
      relation.targetSchema = none → withoutArchive.Spares clubSchema relation := by
  have hvalid : clubSchema.validate = .ok () := rfl
  obtain ⟨hfiltered, hrelations⟩ := filter_preserves_validity withoutArchive clubSchema hvalid
  exact ⟨hvalid, ⟨by decide, by decide⟩, hfiltered, fun table htable relation hrelation hstays =>
    (hrelations table htable relation hrelation hstays).1⟩

/-! ### Relations that are dropped -/

namespace TableFilter

variable {f : TableFilter} {schema : Schema} {relation : Relation}

/-- **What becomes of a relation** of a table that stays, by the places of its target and its join
table. -/
structure Fate (f : TableFilter) (schema : Schema) (relation : Relation) (stays : Prop) :
    Prop where
  /-- The relation stays just in case no table to which it refers is removed. -/
  spared : relation.targetSchema ≠ some schema.name → relation.JoinsWithin schema →
    (stays ↔ f.Spares schema relation)
  /-- A target whose schema is named is not looked at, even if this is the schema itself. -/
  named : relation.targetSchema = some schema.name → relation.JoinsWithin schema →
    (stays ↔ ¬f.Removes schema relation.sourceTable ∧
      ∀ join ∈ relation.join, ¬f.Removes schema join.table)
  /-- A join table that is not in the schema counts as removed as soon as there is a pattern. -/
  elsewhere : ¬relation.JoinsWithin schema → (stays ↔ f.isEmpty)

/-- A relation is spared if its source, its target within the schema and its join table are. -/
theorem spares_iff : f.Spares schema relation ↔
    ¬f.Removes schema relation.sourceTable ∧
    (relation.targetSchema = none ∨ relation.targetSchema = some schema.name →
      ¬f.Removes schema relation.targetTable) ∧
    ∀ join ∈ relation.join, ¬f.Removes schema join.table := by
  constructor
  · intro h
    exact ⟨h _ (.inl rfl), fun htarget => h _ (.inr (.inl ⟨htarget, rfl⟩)),
      fun join hjoin => h _ (.inr (.inr ⟨join, hjoin, rfl⟩))⟩
  · rintro ⟨hsource, htarget, hjoin⟩ name (rfl | ⟨hwithin, rfl⟩ | ⟨join, hmem, rfl⟩)
    · exact hsource
    · exact htarget hwithin
    · exact hjoin join hmem

/-- Where all tables that are looked at are tables of the schema, a relation stays if none of them
is removed. -/
theorem retains_iff_of_joinsWithin (hsource : relation.sourceTable ∈ schema.tableNames)
    (htarget : relation.targetSchema = none → relation.targetTable ∈ schema.tableNames)
    (hjoins : relation.JoinsWithin schema) :
    f.retains schema relation ↔
      ¬f.Removes schema relation.sourceTable ∧
      (relation.targetSchema = none → ¬f.Removes schema relation.targetTable) ∧
      ∀ join ∈ relation.join, ¬f.Removes schema join.table := by
  by_cases hempty : f.isEmpty
  · have hnone : ∀ name, ¬f.Removes schema name :=
      fun name => not_removes (selects_of_isEmpty hempty name)
    rw [retains, hempty, Bool.true_or]
    exact iff_of_true rfl ⟨hnone _, fun _ => hnone _, fun _ _ => hnone _⟩
  · rw [retains_iff hempty, not_removes_iff hsource, and_iff_right hsource]
    refine and_congr_right fun _ => and_congr ?_ ?_
    -- Only the target and the join table are asked for conditionally.
    · refine forall_congr' fun hstays => ?_
      rw [not_removes_iff (htarget hstays), and_iff_right (htarget hstays)]
    · refine forall₂_congr fun join hjoin => ?_
      rw [not_removes_iff (hjoins join hjoin), and_iff_right (hjoins join hjoin)]

/-- A relation through a join table elsewhere stays only if there is no pattern at all. -/
theorem retains_iff_of_not_joinsWithin (h : ¬relation.JoinsWithin schema) :
    f.retains schema relation ↔ f.isEmpty := by
  by_cases hempty : f.isEmpty
  · rw [retains, hempty, Bool.true_or]
  · -- With a pattern, the join table would have to be one of the kept tables.
    refine iff_of_false (fun hretains => h fun join hjoin => ?_) hempty
    obtain ⟨-, -, hkept⟩ := (retains_iff hempty).1 hretains
    exact (hkept join hjoin).1

/-- **Every relation of a valid catalog** meets its fate. -/
theorem fate (hsource : relation.sourceTable ∈ schema.tableNames)
    (htarget : relation.targetSchema = none → relation.targetTable ∈ schema.tableNames) :
    f.Fate schema relation (f.retains schema relation) where
  spared hother hjoins := by
    rw [retains_iff_of_joinsWithin hsource htarget hjoins, spares_iff, or_iff_left hother]
  named hown hjoins := by
    rw [retains_iff_of_joinsWithin hsource htarget hjoins, hown]
    simp only [reduceCtorEq, false_imp_iff, true_and]
  elsewhere hjoins := retains_iff_of_not_joinsWithin hjoins

/-- Nothing changes just in case all relations stay, if all tables do. -/
theorem apply_eq_self_iff (h : ∀ name ∈ schema.tableNames, f.selects name) :
    f.apply schema = schema ↔
      ∀ table ∈ schema.tables, ∀ relation ∈ table.relations, f.retains schema relation := by
  have hall : (schema.tables.filter fun table => f.selects table.name) = schema.tables :=
    List.filter_eq_self.2 fun table htable => h _ (List.mem_map_of_mem htable)
  have htrim : ∀ table, f.trim schema table = table ↔
      ∀ relation ∈ table.relations, f.retains schema relation := by
    intro table
    rw [trim, ← List.filter_eq_self]
    constructor
    · intro heq
      exact congrArg Table.relations heq
    · intro heq
      rw [heq]
  rw [apply_eq, hall]
  constructor
  · -- Tables are trimmed one by one, so each of them is what it was before.
    intro heq table htable
    have hmap : schema.tables.map (f.trim schema) = schema.tables.map id := by
      rw [List.map_id]
      exact congrArg Schema.tables heq
    exact (htrim table).1 (List.map_inj_left.1 hmap table htable)
  · intro hretains
    rw [List.map_congr_left fun table htable => (htrim table).2 (hretains table htable),
      List.map_id']

end TableFilter

/-- In a valid catalog the source of a relation is a table of the schema, and so is the target if
the relation stays within it. -/
theorem Catalog.Valid.ends {catalog : Catalog} {schema : Schema} {table : Table}
    {relation : Relation} (h : catalog.Valid) (hschema : schema ∈ catalog.schemas)
    (htable : table ∈ schema.tables) (hrelation : relation ∈ table.relations) :
    relation.sourceTable ∈ schema.tableNames ∧
      (relation.targetSchema = none → relation.targetTable ∈ schema.tableNames) := by
  obtain ⟨-, htables⟩ := h schema hschema
  obtain ⟨-, -, hrelations⟩ := htables table htable
  obtain ⟨hwithin, hacross⟩ := hrelations relation hrelation
  refine ⟨?_, fun hstays => (hwithin hstays).target⟩
  -- Its source was checked with it, wherever it leads.
  cases htarget : relation.targetSchema with
  | none => exact (hwithin htarget).source
  | some target => exact (hacross target htarget).1

/-- **Which relations a filter drops.** Filtering a schema of a valid catalog takes out the tables
that are not selected, and from every other table the relations that refer to one of them, all else
staying in its order. In two cases the rule is another one: a relation that names its own schema as
that of the target stays without it, and one whose join table is not in the schema stays only if
there is no pattern at all. So a filter with patterns that match every table changes nothing just in
case all join tables are in the schema. -/
theorem filter_drops_touched_relations (catalog : Catalog) (hvalid : catalog.validate = .ok ())
    (schema : Schema) (hschema : schema ∈ catalog.schemas) (f : TableFilter) :
    (∃ stays : Relation → Bool,
      f.apply schema =
        { schema with
          tables := (schema.tables.filter fun table => f.selects table.name).map fun table =>
            { table with relations := table.relations.filter stays } } ∧
      ∀ table ∈ schema.tables, ∀ relation ∈ table.relations,
        f.Fate schema relation (stays relation)) ∧
    ((∀ name ∈ schema.tableNames, f.selects name) →
      (f.apply schema = schema ↔ f.isEmpty ∨
        ∀ table ∈ schema.tables, ∀ relation ∈ table.relations, relation.JoinsWithin schema)) := by
  have hends := fun table (htable : table ∈ schema.tables) relation
      (hrelation : relation ∈ table.relations) =>
    (Catalog.validate_eq_ok.1 hvalid).ends hschema htable hrelation
  refine ⟨⟨f.retains schema, f.apply_eq schema, fun table htable relation hrelation => ?_⟩,
    fun hall => ?_⟩
  · -- Each relation by itself: validity says that its ends are there.
    obtain ⟨hsource, htarget⟩ := hends table htable relation hrelation
    exact TableFilter.fate hsource htarget
  · -- No table is removed, so a relation can go only for a join table elsewhere.
    rw [TableFilter.apply_eq_self_iff hall]
    have hnone : ∀ name, ¬f.Removes schema name := fun name hremoved =>
      hremoved.2 (hall name hremoved.1)
    constructor
    · intro hretains
      refine or_iff_not_imp_left.2 fun hempty table htable relation hrelation => ?_
      by_contra hjoins
      exact hempty ((TableFilter.retains_iff_of_not_joinsWithin hjoins).1
        (hretains table htable relation hrelation))
    · rintro (hempty | hjoins) table htable relation hrelation
      · rw [TableFilter.retains, hempty, Bool.true_or]
      · obtain ⟨hsource, htarget⟩ := hends table htable relation hrelation
        exact (TableFilter.retains_iff_of_joinsWithin hsource htarget
          (hjoins table htable relation hrelation)).2
            ⟨hnone _, fun _ => hnone _, fun _ _ => hnone _⟩

/-- An employee has accounts in another schema, by assignments, which are there as well. -/
def accountRelation : Relation :=
  ⟨.manyToMany, "employees", some "crm", "accounts",
    ⟨"assignments_employee_fk", ["employee_id"], [.column "id"]⟩,
    some ⟨"assignments", ⟨"assignments_account_fk", ["account_id"], [.column "id"]⟩⟩⟩

/-- An employee has a desk in the same schema, and the relation may name this schema. -/
def deskRelation (named : Option String) : Relation :=
  ⟨.manyToOne, "employees", named, "desks",
    ⟨"employees_desk_fk", ["desk_id"], [.column "id"]⟩, none⟩

def staffSchema (named : Option String) : Schema where
  name := "hr"
  tables :=
    [⟨"desks", [numberColumn "id"], []⟩,
      ⟨"employees", [numberColumn "id", numberColumn "desk_id"],
        [deskRelation named, accountRelation]⟩]

def staffCatalog (named : Option String) : Catalog where
  schemas :=
    [staffSchema named,
      ⟨"crm", [⟨"accounts", [numberColumn "id"], []⟩,
        ⟨"assignments", [numberColumn "employee_id", numberColumn "account_id"], []⟩]⟩]

/-- The filter that includes every table by its pattern. -/
def everyTable : TableFilter where
  includes := [⟨[.anySequence]⟩]
  excludes := []

/-- The filter that excludes the tables whose name starts with a `d`. -/
def withoutDesks : TableFilter where
  includes := []
  excludes := [⟨[.literal 'd', .anySequence]⟩]

/-- The pattern of the filter matches both tables, but the assignments are not in the schema. -/
theorem filter_drops_touched_relations_staff :
    (staffCatalog none).validate = .ok () ∧
    (∀ name ∈ (staffSchema none).tableNames, everyTable.selects name) ∧
    everyTable.apply (staffSchema none) ≠ staffSchema none := by
  have hvalid : (staffCatalog none).validate = .ok () := rfl
  have hall : ∀ name ∈ (staffSchema none).tableNames, everyTable.selects name := by decide
  obtain ⟨-, hsame⟩ := filter_drops_touched_relations (staffCatalog none) hvalid
    (staffSchema none) List.mem_cons_self everyTable
  refine ⟨hvalid, hall, fun heq => ?_⟩
  rcases (hsame hall).1 heq with hempty | hjoins
  · exact absurd hempty (by decide)
  · have hassignments := hjoins _ (List.mem_cons_of_mem _ List.mem_cons_self) accountRelation
      (by decide) _ rfl
    exact absurd hassignments (by decide)

/-- **A relation dropped with no table removed:** it leads into another schema, and its join table
is there. And a relation kept without its target: the one to the desks, once it names its own
schema. -/
theorem untouched_relation_dropped :
    ((staffCatalog none).validate = .ok () ∧ ¬everyTable.isEmpty ∧
      (∀ name ∈ (staffSchema none).tableNames, everyTable.selects name) ∧
      everyTable.Spares (staffSchema none) accountRelation ∧
      (everyTable.apply (staffSchema none)).tables.map (·.relations) =
        [[], [deskRelation none]]) ∧
    (staffCatalog (some "hr")).validate = .ok () ∧
    withoutDesks.selects "employees" ∧ withoutDesks.Removes (staffSchema (some "hr")) "desks" ∧
    ¬withoutDesks.Spares (staffSchema (some "hr")) (deskRelation (some "hr")) ∧
    (withoutDesks.apply (staffSchema (some "hr"))).tables.map (·.relations) =
      [[deskRelation (some "hr")]] := by
  have hall : ∀ name ∈ (staffSchema none).tableNames, everyTable.selects name := by decide
  have hdesks : withoutDesks.Removes (staffSchema (some "hr")) "desks" := ⟨by decide, by decide⟩
  refine ⟨⟨rfl, by decide, hall, ?_, by decide⟩, rfl, by decide, hdesks, ?_, by decide⟩
  · -- Nothing is removed at all.
    intro name _ hremoved
    exact hremoved.2 (hall name hremoved.1)
  · -- The desks are removed, and the relation names them as a table of its own schema.
    intro hspares
    exact hspares "desks" (.inr (.inl ⟨.inr rfl, rfl⟩)) hdesks

end SchemaDiagram
