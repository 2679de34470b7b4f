import SchemaDiagram.Proofs.BuiltValidity
import SchemaDiagram.Proofs.ReadingOrder

/-!
# The rows of a database

What the rows of a database are like. Each record gives one row (`Database.Says`), so the column
rows are those of the column records and the rows of foreign keys those of the foreign-key records,
in their order (`Database.Says.columns`, `Database.Says.foreignKeys`).

A column row takes type and precision from one short type name. The name is looked up in two places,
in the list of the types with a precision and among the families of modifiers, and these agree
(`mem_precisionTypes`). So loaded columns bring a precision only where their type carries one
(`Database.columnsSound`).
-/

namespace SchemaDiagram

/-! ### Precisions -/

/-- **The types with a precision** are those whose modifiers are decoded. -/
theorem mem_precisionTypes {name : String} :
    name ∈ precisionTypes ↔ (PrecisionFamily.ofTypeName? name).isSome := by
  constructor
  · intro h
    -- One case for each name of the list.
    simp only [precisionTypes, List.mem_cons, List.not_mem_nil, or_false] at h
    rcases h with rfl | rfl | rfl | rfl | rfl | rfl | rfl | rfl | rfl | rfl <;> rfl
  · intro h
    unfold PrecisionFamily.ofTypeName? at h
    -- And one case for each name of the table of families.
    split at h
    all_goals first | decide | exact absurd h Bool.false_ne_true

/-- **A precision is decoded only for a type that carries one.** -/
theorem resolve_hasPrecision {short canonical : String} {typmod : Int32}
    (h : (precisionOf short typmod).isSome) : (SqlType.resolve short canonical).hasPrecision := by
  unfold precisionOf at h
  split at h
  · -- A negative modifier is not decoded.
    exact absurd h Bool.false_ne_true
  · obtain ⟨precision, h⟩ := Option.isSome_iff_exists.1 h
    obtain ⟨family, hfamily, -⟩ := Option.bind_eq_some_iff.1 h
    exact decide_eq_true (mem_precisionTypes.2 (Option.isSome_iff_exists.2 ⟨family, hfamily⟩))

/-- **Types that carry a precision** have modifiers that encode one, and no others do. -/
theorem hasPrecision_iff {short canonical : String} :
    (SqlType.resolve short canonical).hasPrecision ↔
      ∃ typmod, (precisionOf short typmod).isSome := by
  constructor
  · intro h
    obtain ⟨family, hfamily⟩ :=
      Option.isSome_iff_exists.1 (mem_precisionTypes.1 (of_decide_eq_true h))
    -- A modifier of four is at least zero and at least the offset, so every family decodes it.
    refine ⟨4, ?_⟩
    rw [precisionOf, if_neg (by decide), hfamily]
    cases family <;> rfl
  · rintro ⟨typmod, h⟩
    exact resolve_hasPrecision h

/-- The server supplies precisions only for types that carry one. -/
theorem implicitPrecision_hasPrecision {short canonical : String}
    (h : (SqlType.resolve short canonical).implicitPrecision) :
    (SqlType.resolve short canonical).hasPrecision := by
  have hsubset : implicitPrecisionTypes ⊆ precisionTypes := by decide
  exact decide_eq_true (hsubset (of_decide_eq_true h))

/-! ### Rows and records -/

section Records

variable {α β : Type} {R : α → Row → Prop} {S : α → β → Prop} {f : Row → Option β}
  {records : List α} {rows : List Row}

/-- Rows of another kind than the one asked for. -/
theorem filterMap_of_records_none (h : List.Forall₂ R records rows)
    (hnone : ∀ {record row}, R record row → f row = none) : rows.filterMap f = [] := by
  induction h with
  | nil => rfl
  | cons hrow _ ih => rw [List.filterMap_cons_none (hnone hrow), ih]

/-- Rows of the kind asked for, each with its record. -/
theorem filterMap_of_records (h : List.Forall₂ R records rows)
    (hsome : ∀ {record row}, R record row → ∃ b, f row = some b ∧ S record b) :
    List.Forall₂ S records (rows.filterMap f) := by
  induction h with
  | nil => exact .nil
  | cons hrow _ ih =>
    -- Each row yields one entry, which stands against the record of the row.
    obtain ⟨b, hb, hrel⟩ := hsome hrow
    rw [List.filterMap_cons_some hb]
    exact .cons hrel ih

end Records

namespace Database

variable {db : Database} {rows : List Row}

/-- **The column rows** are those of the column records. -/
theorem Says.columns (h : db.Says rows) :
    List.Forall₂ (fun record column => record.Says (.column column)) db.columns
      (rows.filterMap Row.column?) := by
  -- Five of the six kinds of rows yield no column.
  obtain ⟨hschemas, htables, hcolumns, hprimaryKeys, hforeignKeys, hindexEntries⟩ := h
  simp only [List.filterMap_append]
  rw [filterMap_of_records_none hschemas (by rintro _ _ ⟨⟩; rfl),
    filterMap_of_records_none htables (by rintro _ _ ⟨⟩; rfl),
    filterMap_of_records_none hprimaryKeys (by rintro _ _ ⟨⟩; rfl),
    filterMap_of_records_none hforeignKeys (by rintro _ _ ⟨⟩; rfl),
    filterMap_of_records_none hindexEntries (by rintro _ _ (_ | _ | _) <;> rfl)]
  simp only [List.nil_append, List.append_nil]
  refine filterMap_of_records hcolumns fun {record row} hrow => ?_
  cases hrow
  exact ⟨_, rfl, .column⟩

/-- **The rows of foreign keys** are those of the foreign-key records. -/
theorem Says.foreignKeys (h : db.Says rows) :
    List.Forall₂ (fun record row => record.Says (.foreignKey row)) db.foreignKeys
      (rows.filterMap Row.foreignKey?) := by
  obtain ⟨hschemas, htables, hcolumns, hprimaryKeys, hforeignKeys, hindexEntries⟩ := h
  -- Here the five other kinds yield no key.
  simp only [List.filterMap_append]
  rw [filterMap_of_records_none hschemas (by rintro _ _ ⟨⟩; rfl),
    filterMap_of_records_none htables (by rintro _ _ ⟨⟩; rfl),
    filterMap_of_records_none hcolumns (by rintro _ _ ⟨⟩; rfl),
    filterMap_of_records_none hprimaryKeys (by rintro _ _ ⟨⟩; rfl),
    filterMap_of_records_none hindexEntries (by rintro _ _ (_ | _ | _) <;> rfl)]
  simp only [List.nil_append, List.append_nil]
  refine filterMap_of_records hforeignKeys fun {record row} hrow => ?_
  cases hrow
  exact ⟨_, rfl, .foreignKey⟩

/-- **Precisions of loaded columns.** -/
theorem columnsSound (h : db.rows = .ok rows) : ColumnsSound rows := by
  intro column hcolumn
  have hmem : column ∈ rows.filterMap Row.column? :=
    List.mem_filterMap.2 ⟨_, hcolumn, rfl⟩
  obtain ⟨record, -, hrecord⟩ := exists_related_of_mem_right (rows_eq_ok_iff.1 h).2.columns hmem
  -- The short name decides both, the type modifier only which precision it is.
  cases hrecord
  exact resolve_hasPrecision

/-- **A loaded catalog is valid** if its database keeps the names of the columns of a table apart
and has the columns of its keys. -/
theorem loaded_valid (h : db.rows = .ok rows) (hdistinct : ColumnsDistinct rows)
    (hkeys : KeyColumnsGiven rows) : (Catalog.build rows).Valid :=
  build_valid hdistinct (columnsSound h) hkeys

end Database

end SchemaDiagram
