import Mathlib.Data.List.Induction
import SchemaDiagram.Diagram.Session
import SchemaDiagram.Proofs.Drawing
import SchemaDiagram.Proofs.Names
import SchemaDiagram.Proofs.Results

/-!
# What sessions record

The set of rendered keys goes from step to step of a session. A drawing adds names to it and
takes nothing from it, so what a step yields is the same whatever was drawn before, and the set
is known from the steps alone:

* `SessionStep.recorded`: the names that a step adds, also where it ends in an error;
* `Recorded`: a name that some step has added since the last reset;
* `StepOutcome.Follows`: all that an outcome owes to the steps before it;
* `Joins`: how the document of a schema is put together from the outcomes of its tables.
-/

namespace SchemaDiagram

/-! ### Sets of names -/

namespace RenderedKeys

/-- Recording some names and then others is recording them all. -/
theorem insertAll_append (keys : RenderedKeys) (names names' : List String) :
    keys.insertAll (names ++ names') = (keys.insertAll names).insertAll names' :=
  List.foldl_append

/-- The set after recording some names has these and what it had before. -/
theorem mem_insertAll {keys : RenderedKeys} {names : List String} {name : String} :
    name ∈ (keys.insertAll names).names ↔ name ∈ keys.names ∨ name ∈ names := by
  -- By the names that are recorded: each of them goes into the set before the others.
  induction names generalizing keys with
  | nil => exact (or_iff_left List.not_mem_nil).symm
  | cons other names ih =>
    rw [insertAll, List.foldl_cons, ← insertAll, ih, mem_insert, List.mem_cons, or_assoc]

/-- Looking a name up in the set tells membership. -/
theorem contains_eq_true {keys : RenderedKeys} {name : String} :
    keys.contains name = true ↔ name ∈ keys.names :=
  decide_eq_true_iff

/-- The set is as large as its sorted list is long: the set has no repetitions to leave out. -/
theorem size_eq_length_sorted (keys : RenderedKeys) : keys.size = keys.sorted.length := by
  rw [size, sorted, sortedNames, List.length_mergeSort, eraseDups_of_nodup keys.nodup]

end RenderedKeys

/-! ### What one step records -/

/-- There is a column at which the lines of the relation can end. -/
def Relation.hasJoinColumn (relation : Relation) : Bool := relation.foreignKey.joinColumn?.isSome

/-- The name of the key, if it has a join column. -/
def Relation.recorded (relation : Relation) : List String :=
  if relation.hasJoinColumn then [relation.foreignKey.name] else []

/-- The keys of the many-to-one relations up to the first without a join column, and none of them
where a column is refused before. -/
def Table.recorded (policy : PrecisionPolicy) (table : Table) : List String :=
  if policy = .strict ∧ table.columns.any (·.missesPrecision) then []
  else (table.manyToOne.takeWhile Relation.hasJoinColumn).map (·.foreignKey.name)

/-- A relation is drawable just in case it has a join column, which can be tested. -/
theorem Relation.drawable_iff {relation : Relation} :
    relation.Drawable ↔ relation.hasJoinColumn :=
  Option.isSome_iff_exists.symm

/-- **A relation records** its key if it is drawn, and nothing if it is refused. -/
theorem Relation.draw_records (relation : Relation) :
    ∃ result, relation.draw.Does ⟨result, relation.recorded, []⟩ := by
  by_cases h : relation.Drawable
  · rw [recorded, if_pos (drawable_iff.1 h)]
    exact ⟨_, draw_ok h⟩
  · rw [recorded, if_neg fun hsome => h (drawable_iff.2 hsome)]
    exact ⟨_, draw_error h⟩

/-- **Relations record** the keys of those that are drawn before the first refusal. -/
theorem drawRelations_records (relations : List Relation) :
    ∃ result, (drawRelations relations).Does
      ⟨result, (relations.takeWhile Relation.hasJoinColumn).map (·.foreignKey.name), []⟩ := by
  induction relations with
  | nil => exact ⟨_, Draw.does_pure []⟩
  | cons relation relations ih =>
    obtain ⟨result, hrest⟩ := ih
    rw [drawRelations]
    by_cases h : relation.Drawable
    · rw [List.takeWhile_cons_of_pos (Relation.drawable_iff.1 h)]
      exact ⟨_, Draw.does_bind (Relation.draw_ok h) (Draw.does_bind_pure hrest _) rfl⟩
    · -- The error of the first relation keeps the others from being drawn.
      rw [List.takeWhile_cons_of_neg fun hsome => h (Relation.drawable_iff.2 hsome)]
      exact ⟨_, Draw.does_bind_error (Relation.draw_error h)⟩

/-- **A table records** the keys of its drawn relations. Its columns record nothing, but a refused
one keeps the relations from being drawn. -/
theorem Table.draw_records (policy : PrecisionPolicy) (table : Table) :
    ∃ result warnings, (table.draw policy).Does ⟨result, table.recorded policy, warnings⟩ := by
  obtain ⟨result, hrelations⟩ := drawRelations_records table.manyToOne
  rw [recorded]
  split
  · next h =>
    -- A column is refused, and the relations are not reached.
    obtain ⟨rfl, hany⟩ := h
    obtain ⟨column, hcolumn⟩ := Option.isSome_iff_exists.1
      (List.find?_isSome.2 (List.any_eq_true.1 hany))
    exact ⟨_, _, Draw.does_bind_error (drawColumns_strict_error hcolumn table.name)⟩
  · next h =>
    have hcolumns : ∃ lines warnings,
        (drawColumns policy table.name table.columns).Does ⟨.ok lines, [], warnings⟩ := by
      cases policy with
      | lenient => exact ⟨_, _, drawColumns_lenient table.name table.columns⟩
      -- A strict drawing that was not refused came across no column without a precision.
      | strict =>
        have hnone : ∀ column ∈ table.columns, ¬column.missesPrecision := by
          intro column hcolumn hmisses
          exact h ⟨rfl, List.any_eq_true.2 ⟨column, hcolumn, hmisses⟩⟩
        exact ⟨_, _, drawColumns_strict_ok hnone table.name⟩
    obtain ⟨lines, warnings, hcolumns⟩ := hcolumns
    exact ⟨_, _, Draw.does_bind hcolumns (Draw.does_bind_pure hrelations _) rfl⟩

namespace SessionStep

/-- **Recorded names** of a step. -/
def recorded : SessionStep → List String
  | relation r => r.recorded
  | table policy t => t.recorded policy
  | insert name => [name]
  | contains _ => []
  | reset => []

/-- Only relations and tables are drawn. The other steps look at the set or change it by hand. -/
def isDrawing : SessionStep → Bool
  | relation _ => true
  | table _ _ => true
  | _ => false

end SessionStep

/-- What a drawing does is its outcome, with the drawn keys recorded in the set it started from. -/
theorem StepOutcome.ofDraw_of_does {α : Type} {draw : Draw α} {drawn : Drawn α}
    (h : draw.Does drawn) (value : α → StepValue) (keys : RenderedKeys) :
    StepOutcome.ofDraw keys value draw =
      ⟨drawn.result.map value, keys.insertAll drawn.keys, drawn.warnings⟩ := by
  -- The right side is what a drawing run from the set comes to, by definition.
  unfold ofDraw
  rw [h]
  rfl

namespace SessionStep

/-- **A drawing only records.** What it yields and gives as warnings is settled before the set
is known, and so are the names that it adds. -/
theorem run_of_isDrawing {step : SessionStep} (h : step.isDrawing) :
    ∃ result warnings, ∀ keys,
      step.run keys = ⟨result, keys.insertAll step.recorded, warnings⟩ := by
  cases step with
  | relation r =>
    obtain ⟨result, hdraw⟩ := r.draw_records
    exact ⟨_, _, StepOutcome.ofDraw_of_does hdraw StepValue.lines⟩
  | table policy t =>
    obtain ⟨result, warnings, hdraw⟩ := t.draw_records policy
    exact ⟨_, _, StepOutcome.ofDraw_of_does hdraw StepValue.table⟩
  | insert name => nomatch h
  | contains name => nomatch h
  | reset => nomatch h

/-- The set after a step: what it records, and all that was in the set unless the step is a
reset. -/
theorem mem_run (keys : RenderedKeys) (step : SessionStep) {name : String} :
    name ∈ (step.run keys).keys.names ↔
      (name ∈ keys.names ∧ step ≠ .reset) ∨ name ∈ step.recorded := by
  have hdrawing : step.isDrawing →
      (name ∈ (step.run keys).keys.names ↔ name ∈ keys.names ∨ name ∈ step.recorded) := by
    intro h
    obtain ⟨result, warnings, hrun⟩ := run_of_isDrawing h
    rw [hrun keys]
    exact RenderedKeys.mem_insertAll
  -- The drawings are alike; each of the others changes the set in a way of its own.
  cases step with
  | relation r => simpa using hdrawing rfl
  | table policy t => simpa using hdrawing rfl
  | insert other => simpa [run, recorded] using RenderedKeys.mem_insert
  | contains other => simp [run, recorded]
  | reset => simp [run, recorded, RenderedKeys.empty]

end SessionStep

/-! ### What a session records -/

/-- **Recorded since the last reset.** -/
def Recorded (steps : List SessionStep) (name : String) : Prop :=
  ∃ before step after, steps = before ++ step :: after ∧ name ∈ step.recorded ∧
    SessionStep.reset ∉ after

/-- Whether a name is recorded after one more step: it was so before and the step is no reset, or
the step records it. -/
theorem recorded_append_singleton {steps : List SessionStep} {step : SessionStep} {name : String} :
    Recorded (steps ++ [step]) name ↔
      (Recorded steps name ∧ step ≠ .reset) ∨ name ∈ step.recorded := by
  constructor
  · rintro ⟨before, other, after, heq, hname, hreset⟩
    -- Either the name comes from the last step or this step is among those behind its source.
    rcases List.eq_nil_or_concat after with rfl | ⟨after, last, rfl⟩
    · obtain ⟨-, hlast⟩ := List.append_inj' heq rfl
      obtain rfl : step = other := List.cons.inj hlast |>.1
      exact .inr hname
    · rw [List.concat_eq_append, ← List.cons_append, ← List.append_assoc] at heq
      obtain ⟨rfl, hlast⟩ := List.append_inj' heq rfl
      obtain rfl : step = last := List.cons.inj hlast |>.1
      rw [List.concat_eq_append, List.mem_append, not_or, List.mem_singleton] at hreset
      exact .inl ⟨⟨before, other, after, rfl, hname, hreset.1⟩, Ne.symm hreset.2⟩
  · -- The step is put behind those that came after the source of the name.
    rintro (⟨⟨before, other, after, rfl, hname, hreset⟩, hstep⟩ | hname)
    · refine ⟨before, other, after ++ [step], by simp, hname, ?_⟩
      rw [List.mem_append, not_or, List.mem_singleton]
      exact ⟨hreset, Ne.symm hstep⟩
    · exact ⟨steps, step, [], rfl, hname, List.not_mem_nil⟩

/-- The set after some steps. -/
def keysAfter (keys : RenderedKeys) (steps : List SessionStep) : RenderedKeys :=
  steps.foldl (fun keys step => (step.run keys).keys) keys

/-- A session that goes on after some steps does so with the set that these leave. -/
theorem runSession_append (keys : RenderedKeys) (steps steps' : List SessionStep) :
    runSession keys (steps ++ steps') =
      runSession keys steps ++ runSession (keysAfter keys steps) steps' := by
  -- By the earlier steps, for every set: each step of them moves the set on.
  induction steps generalizing keys with
  | nil => rfl
  | cons step steps ih =>
    rw [List.cons_append, runSession, runSession, List.cons_append, ih]
    rfl

/-- Each step of a session has one outcome. -/
theorem length_runSession (keys : RenderedKeys) (steps : List SessionStep) :
    (runSession keys steps).length = steps.length := by
  induction steps generalizing keys with
  | nil => rfl
  | cons step steps ih => rw [runSession, List.length_cons, List.length_cons, ih]

/-- **The set of a session** that starts with the empty one. -/
theorem mem_keysAfter {steps : List SessionStep} {name : String} :
    name ∈ (keysAfter .empty steps).names ↔ Recorded steps name := by
  -- From the last step backwards, since it is the last reset that decides.
  induction steps using List.reverseRecOn with
  | nil =>
    refine iff_of_false List.not_mem_nil ?_
    rintro ⟨before, step, after, h, -⟩
    exact List.append_ne_nil_of_right_ne_nil before (List.cons_ne_nil step after) h.symm
  | append_singleton steps step ih =>
    have hlast : keysAfter .empty (steps ++ [step]) =
        (step.run (keysAfter .empty steps)).keys := by
      rw [keysAfter, List.foldl_append]
      rfl
    rw [hlast, SessionStep.mem_run, ih, recorded_append_singleton]

/-- **What an outcome owes to the past.** The outcome of a step that comes after some others, in
a session that starts with the empty set. -/
structure StepOutcome.Follows (outcome : StepOutcome) (earlier : List SessionStep)
    (step : SessionStep) : Prop where
  /-- Of a drawing, nothing but the set: it yields and warns as it does from the empty one. -/
  fresh : step.isDrawing → outcome.result = (step.run .empty).result ∧
    outcome.warnings = (step.run .empty).warnings
  keys : ∀ name, outcome.keys.contains name ↔ Recorded (earlier ++ [step]) name
  sorted : outcome.keys.sorted.Pairwise (· < ·)
  mem_sorted : ∀ name, name ∈ outcome.keys.sorted ↔ Recorded (earlier ++ [step]) name
  size : outcome.keys.size = outcome.keys.sorted.length
  /-- Recording a name says whether it is new. -/
  insert : ∀ name, step = .insert name →
    ∃ new, outcome.result = .ok (.truth new) ∧ (new ↔ ¬Recorded earlier name)
  contains : ∀ name, step = .contains name →
    ∃ known, outcome.result = .ok (.truth known) ∧ (known ↔ Recorded earlier name)

/-- **A step run after others** owes to them what every outcome does. -/
theorem SessionStep.run_follows (earlier : List SessionStep) (step : SessionStep) :
    (step.run (keysAfter .empty earlier)).Follows earlier step := by
  have hkeys : ∀ name, name ∈ (step.run (keysAfter .empty earlier)).keys.names ↔
      Recorded (earlier ++ [step]) name := by
    intro name
    rw [mem_run, mem_keysAfter, recorded_append_singleton]
  refine ⟨fun h => ?_, fun name => ?_, sortedNames_pairwise _, fun name => ?_,
    RenderedKeys.size_eq_length_sorted _, ?_, ?_⟩
  · -- A drawing does the same from every set, so also from the empty one.
    obtain ⟨result, warnings, hrun⟩ := run_of_isDrawing h
    rw [hrun, hrun]
    exact ⟨rfl, rfl⟩
  · rw [RenderedKeys.contains_eq_true, hkeys]
  · rw [RenderedKeys.sorted, mem_sortedNames, hkeys]
  · rintro name rfl
    refine ⟨_, rfl, ?_⟩
    rw [Bool.not_eq_true', ← Bool.not_eq_true, RenderedKeys.contains_eq_true, mem_keysAfter]
  · rintro name rfl
    refine ⟨_, rfl, ?_⟩
    rw [RenderedKeys.contains_eq_true, mem_keysAfter]

/-! ### Documents as sessions -/

/-- **Joining outcomes.** The drawings of some outcomes, or the first error among them, and the
warnings up to it. -/
inductive Joins : List StepOutcome → Except DiagramError (List TableDrawing) → List Warning → Prop
  | nil : Joins [] (.ok []) []
  | drawn {outcome : StepOutcome} {drawing : TableDrawing} {outcomes : List StepOutcome}
      {result : Except DiagramError (List TableDrawing)} {warnings : List Warning}
      (first : outcome.result = .ok (.table drawing)) (others : Joins outcomes result warnings) :
      Joins (outcome :: outcomes) (result.map (drawing :: ·)) (outcome.warnings ++ warnings)
  | refused {outcome : StepOutcome} {e : DiagramError} (first : outcome.result = .error e)
      (outcomes : List StepOutcome) : Joins (outcome :: outcomes) (.error e) outcome.warnings

/-- Tables are drawn as in a session that goes from table to table, but for the steps after the
first error. -/
theorem drawTables_joins (policy : PrecisionPolicy) (tables : List Table) (keys : RenderedKeys) :
    ∃ drawn, (drawTables policy tables).Does drawn ∧
      Joins (runSession keys (tables.map (.table policy))) drawn.result drawn.warnings ∧
      ∀ drawings, drawn.result = .ok drawings →
        keys.insertAll drawn.keys = keysAfter keys (tables.map (.table policy)) := by
  -- By the tables, for every set: the first table moves the set on for the others.
  induction tables generalizing keys with
  | nil => exact ⟨_, Draw.does_pure [], .nil, fun _ _ => rfl⟩
  | cons table tables ih =>
    obtain ⟨result, warnings, hdraw⟩ := table.draw_records policy
    have hrun : SessionStep.run keys (.table policy table) =
        ⟨result.map .table, keys.insertAll (table.recorded policy), warnings⟩ :=
      StepOutcome.ofDraw_of_does hdraw StepValue.table keys
    rw [drawTables, List.map_cons, runSession, hrun, keysAfter, List.foldl_cons, hrun]
    cases result with
    | error e =>
      exact ⟨_, Draw.does_bind_error hdraw, .refused rfl _, fun _ h => absurd h throw_ne_ok⟩
    | ok drawing =>
      -- The other tables are drawn with the keys of the first one recorded.
      obtain ⟨drawn, hdrawn, hjoins, hkeys⟩ := ih (keys.insertAll (table.recorded policy))
      refine ⟨_, Draw.does_bind hdraw (Draw.does_bind_pure hdrawn _) rfl, .drawn rfl hjoins, ?_⟩
      intro drawings hok
      obtain ⟨others, hothers⟩ : ∃ others, drawn.result = .ok others := by
        cases hresult : drawn.result with
        | error e =>
          rw [hresult] at hok
          exact absurd hok throw_ne_ok
        | ok others => exact ⟨others, rfl⟩
      rw [RenderedKeys.insertAll_append, hkeys others hothers, keysAfter]

/-- **The set of rendered keys only records.** In a session, each drawing has the outcome that it
has on its own, and the set after each step is made up of the names recorded since the last
reset. The document of a schema is the session that draws its tables, joined. -/
theorem rendered_keys_only_record :
    (∀ (earlier : List SessionStep) (step : SessionStep) (later : List SessionStep),
      ∃ outcome, (runSession .empty (earlier ++ step :: later))[earlier.length]? = some outcome ∧
        outcome.Follows earlier step) ∧
    ∀ (policy : PrecisionPolicy) (schema : Schema),
      let steps := schema.tables.map (SessionStep.table policy)
      ∃ result, Joins (runSession .empty steps) result (schema.document policy).2 ∧
        (schema.document policy).1 = result.map fun drawings =>
          { text := documentText drawings
            keys := keysAfter .empty steps
            relationLines := relationLineCount drawings } := by
  constructor
  · -- The outcome of the step in the middle, which starts from the set of the earlier steps.
    intro earlier step later
    refine ⟨step.run (keysAfter .empty earlier), ?_, step.run_follows earlier⟩
    rw [runSession_append, List.getElem?_append_right (Nat.le_of_eq (length_runSession _ _)),
      length_runSession, Nat.sub_self]
    rfl
  · -- The document of a schema, whose tables are drawn one after the other from the empty set.
    intro policy schema steps
    obtain ⟨drawn, hdrawn, hjoins, hkeys⟩ := drawTables_joins policy schema.tables .empty
    have hdraw : (schema.draw policy).Does _ := Draw.does_bind_pure hdrawn _
    rw [Schema.document_of_does hdraw]
    refine ⟨drawn.result, hjoins, ?_⟩
    cases hresult : drawn.result with
    | error e => rfl
    | ok drawings =>
      rw [← hkeys drawings hresult]
      rfl

end SchemaDiagram
