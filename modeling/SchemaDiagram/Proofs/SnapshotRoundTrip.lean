import SchemaDiagram.Proofs.WrittenSnapshots
import SchemaDiagram.Snapshot.Catalog

/-!
# The snapshot round trip

Reading takes back every catalog that has been written, provided it is valid, and accepts only
valid catalogs: so what has been read once can be written and read again without change.

The formats enter only through their well-formedness, which is computed, and through the
correspondence of the types of the model with the tuples of their formats, by one lemma for each
type.
-/

namespace SchemaDiagram

open Snapshot

/-! ### The format of a catalog -/

theorem Snapshot.catalogFormat_wellFormed : catalogFormat.wellFormed := by
  decide

/-! ### The types of the model and the tuples of their formats -/

@[simp] theorem SqlType.ofVal_toVal (t : SqlType) : SqlType.ofVal t.toVal = t := rfl

@[simp] theorem Column.ofVal_toVal (c : Column) : Column.ofVal c.toVal = c := rfl

@[simp] theorem ForeignKey.ofVal_toVal (k : ForeignKey) : ForeignKey.ofVal k.toVal = k := rfl

@[simp] theorem JoinPath.ofVal_toVal (p : JoinPath) : JoinPath.ofVal p.toVal = p := rfl

/-- A list of values is a list of tuples. -/
theorem map_ofVal_toVal {α β : Type} {toVal : α → β} {ofVal : β → α}
    (h : ∀ a, ofVal (toVal a) = a) (l : List α) : (l.map toVal).map ofVal = l := by
  have hid : ofVal ∘ toVal = id := funext h
  rw [List.map_map, hid, List.map_id]

@[simp] theorem Relation.ofVal_toVal (r : Relation) : Relation.ofVal r.toVal = r := by
  obtain ⟨kind, sourceTable, targetSchema, targetTable, foreignKey, join⟩ := r
  -- Only relations have an optional part that is no single value.
  cases join <;> rfl

@[simp] theorem Table.ofVal_toVal (t : Table) : Table.ofVal t.toVal = t := by
  change (⟨t.name, (t.columns.map Column.toVal).map Column.ofVal,
    (t.relations.map Relation.toVal).map Relation.ofVal⟩ : Table) = t
  rw [map_ofVal_toVal Column.ofVal_toVal, map_ofVal_toVal Relation.ofVal_toVal]

@[simp] theorem Schema.ofVal_toVal (s : Schema) : Schema.ofVal s.toVal = s := by
  change (⟨s.name, (s.tables.map Table.toVal).map Table.ofVal⟩ : Schema) = s
  rw [map_ofVal_toVal Table.ofVal_toVal]

@[simp] theorem Catalog.ofVal_toVal (c : Catalog) : Catalog.ofVal c.toVal = c := by
  change (⟨(c.schemas.map Schema.toVal).map Schema.ofVal⟩ : Catalog) = c
  rw [map_ofVal_toVal Schema.ofVal_toVal]

/-! ### Writing and reading again -/

namespace Catalog

variable {c : Catalog} {text : String}

/-- **Reading a spelled catalog** is validating it. -/
theorem ofSnapshot_of_spells (h : catalogFormat.Spells c.toVal text) :
    ofSnapshot text = match c.validate with
      | .ok () => .ok c
      | .error cause => .error (.invalid cause) := by
  rw [ofSnapshot, Format.parse_of_spells catalogFormat_wellFormed h]
  change (match (ofVal c.toVal).validate with
    | .ok () => Except.ok (ofVal c.toVal)
    | .error cause => .error (SnapshotError.invalid cause)) = _
  rw [ofVal_toVal]

/-- The text that is written spells the catalog, also with white space after it. -/
theorem spells_toSnapshot (c : Catalog) {space : List Char} (hspace : Json.skipSpace space = [])
    (htext : text.toList = c.toSnapshot.toList ++ space) : catalogFormat.Spells c.toVal text :=
  Format.spells_pretty catalogFormat_wellFormed c.toVal hspace htext

/-- A valid catalog is read back. -/
theorem ofSnapshot_toSnapshot_of_valid (hvalid : c.validate = .ok ()) (space : List Char)
    (hspace : Json.skipSpace space = []) (htext : text.toList = c.toSnapshot.toList ++ space) :
    ofSnapshot text = .ok c := by
  rw [ofSnapshot_of_spells (spells_toSnapshot c hspace htext), hvalid]

/-- Only valid catalogs are accepted. -/
theorem validate_of_ofSnapshot (h : ofSnapshot text = .ok c) : c.validate = .ok () := by
  unfold ofSnapshot at h
  -- A text that is not parsed gives no catalog.
  cases hparse : catalogFormat.parse text with
  | error cause =>
    rw [hparse] at h
    exact absurd h (by simp [bind, Except.bind])
  | ok v =>
    rw [hparse] at h
    change (match (ofVal v).validate with
      | .ok () => Except.ok (ofVal v)
      | .error cause => .error (SnapshotError.invalid cause)) = _ at h
    -- What is parsed has still to be validated.
    split at h
    · next hvalid =>
      obtain rfl : ofVal v = c := Except.ok.inj h
      exact hvalid
    · exact absurd h (by simp)

/-- **Snapshot round trip.** A valid catalog is read back from its snapshot. So a catalog that
has been accepted in any text is, after it has been written, accepted again as the same catalog,
and printed as the same text. -/
theorem snapshot_round_trip :
    (∀ c : Catalog, c.validate = .ok () → ofSnapshot c.toSnapshot = .ok c) ∧
    ∀ (text : String) (c : Catalog), ofSnapshot text = .ok c →
      ∃ c', ofSnapshot c.toSnapshot = .ok c' ∧ c' = c ∧ c'.toSnapshot = c.toSnapshot := by
  have hvalid : ∀ c : Catalog, c.validate = .ok () → ofSnapshot c.toSnapshot = .ok c := by
    intro c h
    exact ofSnapshot_toSnapshot_of_valid h [] rfl (List.append_nil _).symm
  -- An accepted catalog is valid, so the first part applies to it.
  refine ⟨hvalid, fun text c h => ⟨c, hvalid c (validate_of_ofSnapshot h), rfl, rfl⟩⟩

/-- A catalog with a quote, a backslash and a line feed in its names, and a column whose type has
no alias. -/
def oddlyNamed : Catalog where
  schemas := [⟨"p\"ublic", [⟨"a\\b", [⟨"i\nd", ⟨"integer", none, false, false⟩, true, true, none⟩],
    []⟩]⟩]

theorem snapshot_round_trip_oddlyNamed :
    ofSnapshot oddlyNamed.toSnapshot = .ok oddlyNamed ∧
    ∃ c', ofSnapshot oddlyNamed.toSnapshot = .ok c' ∧ c' = oddlyNamed ∧
      c'.toSnapshot = oddlyNamed.toSnapshot := by
  obtain ⟨hvalid, hagain⟩ := snapshot_round_trip
  have hread := hvalid oddlyNamed rfl
  exact ⟨hread, hagain _ _ hread⟩

end Catalog

end SchemaDiagram
