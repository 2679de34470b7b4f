import SchemaDiagram.Proofs.Drawing
import SchemaDiagram.Proofs.Results

/-!
# Strict and lenient drawings

The strict policy refuses a column whose precision is missing, the lenient one draws it and
warns. Nothing else tells the policies apart, so a strict drawing either does the same as the
lenient one, which then has nothing to warn about, or it ends at the column of the first warning:

* `Drawn.Stricter`: these two cases, for what two drawings do;
* `Draw.Stricter`: two drawings of which that holds, with a lemma for each way in which drawings
  are made and one for each part of a document;
* `strict_refines_lenient`: what it comes to for the document of a schema.
-/

namespace SchemaDiagram

variable {α β : Type}

/-! ### Two drawings side by side -/

/-- **A drawing beside a stricter one.** -/
structure Drawn.Stricter (strict lenient : Drawn α) : Prop where
  /-- The stricter drawing gives no warning. -/
  quiet : strict.warnings = []
  /-- The other one refuses no precision. -/
  tolerant : ∀ table column, lenient.result ≠ .error (.missingPrecision table column)
  /-- Both do the same, or one refuses the column of which the other warns first. -/
  alternative : strict = lenient ∨ ∃ table column later,
    strict.result = .error (.missingPrecision table column) ∧
      lenient.warnings = .missingPrecision table column :: later

namespace Draw

/-- **Stricter drawing:** what one drawing does stands beside what the other one does, from every
record. -/
def Stricter (strict lenient : Draw α) : Prop :=
  ∃ s l, strict.Does s ∧ lenient.Does l ∧ s.Stricter l

/-- A drawing that neither warns nor refuses a precision may stand on both sides. -/
theorem Stricter.of_does {draw : Draw α} {drawn : Drawn α} (h : draw.Does drawn)
    (quiet : drawn.warnings = [])
    (tolerant : ∀ table column, drawn.result ≠ .error (.missingPrecision table column)) :
    draw.Stricter draw :=
  ⟨drawn, drawn, h, h, quiet, tolerant, .inl rfl⟩

/-- A value may stand on both sides. -/
theorem Stricter.pure (a : α) : (Pure.pure a : Draw α).Stricter (Pure.pure a) :=
  .of_does (does_pure a) rfl fun _ _ h => nomatch h

/-- A drawing that refuses a precision is stricter than any that begins with the warning. -/
theorem Stricter.refuse {draw : Draw α} {drawn : Drawn α} {table column : String}
    (h : draw.Does drawn)
    (tolerant : ∀ table column, drawn.result ≠ .error (.missingPrecision table column))
    (next : Unit → Draw α) :
    (throw (.missingPrecision table column) >>= next).Stricter
      (Draw.warn (.missingPrecision table column) >>= fun _ => draw) := by
  -- The refusal comes before anything else, and the warning stands first on the other side.
  have hthrow : Draw.Does (throw (.missingPrecision table column) : Draw Unit)
      ⟨.error (.missingPrecision table column), [], []⟩ := does_ofExcept (.error _)
  exact ⟨_, _, does_bind_error hthrow, does_bind (does_warn _) h rfl, rfl, tolerant,
    .inr ⟨table, column, drawn.warnings, rfl, rfl⟩⟩

/-- One drawing after another. Once the stricter one has refused, only the lenient one goes on,
and it keeps its first warning. -/
theorem Stricter.bind {strict lenient : Draw α} {next next' : α → Draw β}
    (h : strict.Stricter lenient) (hnext : ∀ a, (next a).Stricter (next' a)) :
    (strict >>= next).Stricter (lenient >>= next') := by
  -- The two drawings are taken apart into result, keys and warnings, of which the stricter one has
  -- none.
  obtain ⟨⟨s, keys, warnings⟩, ⟨l, keys', warnings'⟩, hs, hl, hquiet, htolerant, halt⟩ := h
  obtain rfl : warnings = [] := hquiet
  rcases l with e | a
  · -- The lenient drawing ends with an error, so the other one ends as well.
    have herror : ∀ table column,
        (.error e : Except DiagramError β) ≠ .error (.missingPrecision table column) := by
      intro table column he
      exact htolerant table column (congrArg Except.error (Except.error.inj he))
    rcases halt with heq | ⟨table, column, later, rfl, rfl⟩
    · obtain ⟨rfl, rfl, rfl⟩ := Drawn.mk.inj heq
      exact ⟨_, _, does_bind_error hs, does_bind_error hl, rfl, herror, .inl rfl⟩
    · exact ⟨_, _, does_bind_error hs, does_bind_error hl, rfl, herror,
        .inr ⟨table, column, later, rfl, rfl⟩⟩
  · -- The lenient drawing has a value and goes on.
    obtain ⟨s', l', hs', hl', hquiet', htolerant', halt'⟩ := hnext a
    -- Either both are still the same, and the second parts decide, or the stricter one has ended.
    rcases halt with heq | ⟨table, column, later, rfl, rfl⟩
    · obtain ⟨rfl, rfl, rfl⟩ := Drawn.mk.inj heq
      refine ⟨_, _, does_bind hs hs' rfl, does_bind hl hl' rfl, hquiet', htolerant', ?_⟩
      rcases halt' with rfl | ⟨table, column, later, hresult, hwarnings⟩
      · exact .inl rfl
      · exact .inr ⟨table, column, later, hresult, hwarnings⟩
    · exact ⟨_, _, does_bind_error hs, does_bind hl hl' rfl, rfl, htolerant',
        .inr ⟨table, column, later ++ l'.warnings, rfl, rfl⟩⟩

end Draw

/-! ### The parts of a document -/

/-- **Columns:** the first one whose precision is missing is refused by one policy and drawn with a
warning by the other. -/
theorem drawColumns_stricter (table : String) (columns : List Column) :
    (drawColumns .strict table columns).Stricter (drawColumns .lenient table columns) := by
  induction columns with
  | nil => exact .pure []
  | cons column columns ih =>
    -- The line in front of the others is drawn alike under both policies.
    have hrest := ih.bind fun lines => Draw.Stricter.pure
      (("    " ++ column.name ++ ": " ++ column.typeLabel ++ " ") :: lines)
    rw [drawColumns, drawColumns]
    by_cases hmisses : column.missesPrecision
    · -- What is drawn of the other columns under the lenient policy does not matter to the strict
      -- one.
      rw [if_pos hmisses, if_pos hmisses]
      obtain ⟨-, l, -, hl, -, htolerant, -⟩ := hrest
      exact .refuse hl htolerant _
    · rw [if_neg hmisses, if_neg hmisses]
      exact hrest

/-- Relations are drawn alike under both policies. -/
theorem Relation.draw_stricter (relation : Relation) : relation.draw.Stricter relation.draw := by
  by_cases h : relation.Drawable
  · exact .of_does (draw_ok h) rfl fun _ _ h => nomatch h
  · exact .of_does (draw_error h) rfl fun _ _ h => nomatch h

/-- Many-to-one relations are drawn without regard to the policy. -/
theorem drawRelations_stricter (relations : List Relation) :
    (drawRelations relations).Stricter (drawRelations relations) := by
  induction relations with
  | nil => exact .pure []
  | cons relation relations ih =>
    rw [drawRelations]
    exact relation.draw_stricter.bind fun _ => ih.bind fun _ => .pure _

/-- A table: the columns make the difference, the relations none. -/
theorem Table.draw_stricter (table : Table) :
    (table.draw .strict).Stricter (table.draw .lenient) :=
  (drawColumns_stricter table.name table.columns).bind fun _ =>
    (drawRelations_stricter table.manyToOne).bind fun _ => .pure _

/-- The tables of a schema, one after the other. -/
theorem drawTables_stricter (tables : List Table) :
    (drawTables .strict tables).Stricter (drawTables .lenient tables) := by
  induction tables with
  | nil => exact .pure []
  | cons table tables ih =>
    rw [drawTables, drawTables]
    exact table.draw_stricter.bind fun _ => ih.bind fun _ => .pure _

/-- A schema: the text is put together from what was drawn, which adds no difference. -/
theorem Schema.draw_stricter (schema : Schema) :
    (schema.draw .strict).Stricter (schema.draw .lenient) :=
  (drawTables_stricter schema.tables).bind fun _ => .pure _

/-! ### Documents -/

/-- **A strict document** is the lenient one where that comes without a warning about a missing
precision, or is refused for the same key where no warning precedes this, or is refused at the
column of the first warning. -/
theorem strict_refines_lenient (schema : Schema) :
    (∀ document, (schema.document .strict).1 = .ok document ↔
      (schema.document .lenient).1 = .ok document ∧
        ∀ table column, .missingPrecision table column ∉ (schema.document .lenient).2) ∧
    (∀ key, (schema.document .strict).1 = .error (.missingJoinColumn key) ↔
      schema.document .lenient = (.error (.missingJoinColumn key), [])) ∧
    (∀ table column, (schema.document .strict).1 = .error (.missingPrecision table column) ↔
      ∃ later, (schema.document .lenient).2 = .missingPrecision table column :: later) ∧
    (schema.document .strict).2 = [] := by
  obtain ⟨s, l, hs, hl, hquiet, htolerant, halt⟩ := schema.draw_stricter
  rw [Schema.document_of_does hs, Schema.document_of_does hl]
  rcases halt with rfl | ⟨table, column, later, hresult, hwarnings⟩
  · -- The two drawings are one, and its result is no missing precision.
    dsimp only
    rw [hquiet]
    refine ⟨fun document => ?_, fun key => ?_, fun table column => ?_, rfl⟩
    · simp only [List.not_mem_nil, not_false_eq_true, implies_true, and_true]
    · rw [Prod.mk.injEq, eq_self_iff_true, and_true]
    · rw [map_eq_error]
      exact iff_of_false (htolerant table column) fun ⟨_, h⟩ => nomatch h
  · -- The strict drawing ends with a missing precision and the lenient one warns of it first.
    dsimp only
    rw [hquiet, hresult, hwarnings]
    refine ⟨fun document => ?_, fun key => ?_, fun table' column' => ?_, rfl⟩
    · exact iff_of_false (fun h => nomatch h) fun h => h.2 table column List.mem_cons_self
    · exact iff_of_false (fun h => nomatch h) fun h => nomatch (Prod.mk.inj h).2
    · constructor
      · -- The warning names the column that was refused.
        intro h
        obtain ⟨rfl, rfl⟩ := DiagramError.missingPrecision.inj (Except.error.inj h)
        exact ⟨later, rfl⟩
      · rintro ⟨_, h⟩
        obtain ⟨rfl, rfl⟩ := Warning.missingPrecision.inj (List.cons.inj h).1
        rfl

end SchemaDiagram
