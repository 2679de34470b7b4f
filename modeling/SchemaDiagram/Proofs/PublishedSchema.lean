import SchemaDiagram.Proofs.AdmittedValues
import SchemaDiagram.Proofs.FormatSchemas
import SchemaDiagram.Proofs.SnapshotSpellings

/-!
# The published schema

The JSON Schema of snapshots accepts the values that the format of catalogs admits and no others.
All values that are read as a catalog are among them, as far as their records are written as objects
(`Format.admits_of_parse`), and so are those that are written for catalogs.

The schema is the keywords of the format with its definitions beside them. What the keywords of a
format say is known where references lead to the definitions they are meant for
(`Format.keywords_give`); what remains is that they do in the published schema (`resolved_publish`).
-/

namespace SchemaDiagram.Snapshot

open Json

/-! ### References -/

/-- Of every name one member is kept. -/
theorem eraseDups_names : ∀ members : Keywords,
    (∀ member ∈ members.eraseDupsBy (fun a b => a.1 == b.1), member ∈ members) ∧
      ∀ member ∈ members, ∃ kept ∈ members.eraseDupsBy (fun a b => a.1 == b.1), kept.1 = member.1
  | [] => ⟨fun _ h => h, fun _ h => absurd h List.not_mem_nil⟩
  | first :: members => by
    -- The first one is kept, and all others of its name are taken out of the rest.
    obtain ⟨hsub, hkept⟩ :=
      eraseDups_names (members.filter fun b => decide ((b.1 == first.1) = false))
    rw [List.eraseDupsBy_cons]
    refine ⟨fun member h => ?_, fun member h => ?_⟩
    · rcases List.mem_cons.1 h with rfl | h
      · exact List.mem_cons_self
      · exact List.mem_cons_of_mem _ (List.mem_filter.1 (hsub member h)).1
    · by_cases hname : member.1 = first.1
      · exact ⟨first, List.mem_cons_self, hname.symm⟩
      · have hmember : member ∈ members.filter fun b => decide ((b.1 == first.1) = false) := by
          refine List.mem_filter.2 ⟨(List.mem_cons.1 h).resolve_left ?_, ?_⟩
          · exact fun heq => hname (congrArg Prod.fst heq)
          · exact decide_eq_true (beq_false_of_ne hname)
        obtain ⟨kept, hmem, heq⟩ := hkept member hmember
        exact ⟨kept, List.mem_cons_of_mem _ hmem, heq⟩
termination_by members => members.length
decreasing_by exact Nat.lt_succ_of_le (List.length_filter_le _ _)

/-- The keywords of a record do not define anything. -/
theorem Members.defs_not_mem_keywords (members : Members) (v : Value) :
    ("$defs", v) ∉ members.keywords := by
  intro h
  rcases List.mem_append.1 h with h | h
  · simp only [List.mem_cons, Prod.mk.injEq, List.not_mem_nil, or_false] at h
    rcases h with ⟨h, -⟩ | ⟨h, -⟩
    · exact absurd h (by decide)
    · exact absurd h (by decide)
  · split at h
    · exact absurd h List.not_mem_nil
    · exact absurd (Prod.mk.inj (List.mem_singleton.1 h)).1 (by decide)

/-- The definitions of a published schema. -/
theorem publish_definitions (label : Label) (members : Members) :
    (publish label members).member? "$defs" =
      some (sortedObject (members.definitions.eraseDupsBy fun a b => a.1 == b.1)) := by
  rw [publish]
  obtain ⟨keywords, heq, hmem⟩ := ordered_eq _
  rw [heq]
  change (ObjectMembers.ofList keywords).toList.lookup "$defs" = _
  rw [ObjectMembers.toList_ofList]
  refine lookup_of_only ((hmem _).2 (List.mem_append_right _ List.mem_cons_self)) fun w hw => ?_
  -- All other keywords have other names.
  have hw := (hmem _).1 hw
  simp only [description, List.mem_append, List.mem_cons, List.not_mem_nil, or_false,
    Prod.mk.injEq] at hw
  rcases hw with ((((⟨h, -⟩ | ⟨h, -⟩) | ⟨h, -⟩) | h) | ⟨-, h⟩)
  · exact absurd h (by decide)
  · exact absurd h (by decide)
  · exact absurd h (by decide)
  · exact absurd h (members.defs_not_mem_keywords w)
  · exact h

/-- **All references lead to their definitions,** if definitions of the same name are the same. -/
theorem resolved_publish (label : Label) {members : Members}
    (honly : ∀ definition ∈ members.definitions,
      members.definitions.lookup definition.1 = some definition.2)
    (hnames : ∀ definition ∈ members.definitions, ∀ c ∈ definition.1.toList,
      c ≠ '/' ∧ c ≠ '~' ∧ c ≠ '%') :
    Resolved (publish label members) members.definitions := by
  intro definition hdefinition
  obtain ⟨hsub, hkept⟩ := eraseDups_names members.definitions
  rw [resolveReference_definition (hnames definition hdefinition) (publish_definitions _ _)]
  change (ObjectMembers.ofList _).toList.lookup definition.1 = _
  rw [ObjectMembers.toList_ofList]
  -- Two definitions of one name are found as one, so they are the same.
  have hsame : ∀ w, (definition.1, w) ∈ members.definitions → w = definition.2 := by
    intro w hw
    have hlookup := honly (definition.1, w) hw
    rw [honly definition hdefinition] at hlookup
    exact (Option.some.inj hlookup).symm
  -- So whatever definition of the name has been kept, it is this one.
  refine lookup_of_only (List.mem_mergeSort.2 ?_) fun w hw =>
    hsame w (hsub _ (List.mem_mergeSort.1 hw))
  obtain ⟨⟨name, w⟩, hmem, rfl⟩ := hkept definition hdefinition
  rw [← hsame w (hsub _ hmem)]
  exact hmem

/-- **A published schema** accepts what the format admits. -/
theorem publish_accepts {label : Label} {members : Members} (hwf : members.wellFormed)
    (hresolved : Resolved (publish label members) members.definitions) (v : Value) :
    (publish label members).Accepts v ↔ (Format.record label members).admits v := by
  let root := publish label members
  -- The header and the definitions hold of every value, so the keywords of the members decide.
  have hverdict : ∀ fuel, members.depth ≤ fuel →
      judge root (fuel + 1) root v = some ((Format.record label members).admits v) := by
    intro fuel hfuel
    have hheader : GiveAll (judge root fuel) root
        [("$schema", .string "https://json-schema.org/draft/2020-12/schema"),
          ("title", .string label.name)] v true :=
      .cons (b := true) (fun keywords => rfl) (.single (gives_annotated (by decide) _ _))
    have hmembers : GiveAll (judge root fuel) root members.keywords v _ :=
      Members.keywords_give label fun name v schema hschema =>
        Members.properties_give members hwf hresolved schema fuel hschema hfuel v
    have hdefs : GiveAll (judge root fuel) root
        [("$defs", sortedObject (members.definitions.eraseDupsBy fun a b => a.1 == b.1))] v true :=
      .single (gives_annotated (by decide) _ _)
    have hall := ((hheader.append (give_description label.doc v)).append hmembers).append hdefs
    rw [Bool.and_self, Bool.true_and, Bool.and_true] at hall
    exact judge_ordered hall
  constructor
  · rintro ⟨enough, h⟩
    -- At this depth there is a verdict and it is positive.
    have hpositive := h (max enough members.depth + 1)
      (Nat.le_succ_of_le (Nat.le_max_left enough members.depth))
    rw [hverdict _ (Nat.le_max_right enough members.depth)] at hpositive
    exact Option.some.inj hpositive
  · intro h
    refine ⟨members.depth + 1, fun fuel hfuel => ?_⟩
    obtain ⟨fuel, rfl⟩ := Nat.exists_eq_add_one_of_ne_zero (Nat.ne_zero_of_lt hfuel)
    rw [hverdict fuel (Nat.le_of_succ_le_succ hfuel), h]

/-! ### Written values -/

/-- A null has no record in it that would be no object. -/
theorem Format.asObjects_null : ∀ format : Format, format.asObjects .null
  | .text | .flag | .word | .kind | .entry | .list _ | .record _ _ => rfl
  | .optional inner => asObjects_null inner

/-- A written object has no names but those of its members. -/
theorem Members.toJson_names : ∀ (members : Members) (vs : members.Val),
    ∀ item ∈ (members.toJson vs).toList, item.1 ∈ members.names
  | .nil, _, item, h => absurd h List.not_mem_nil
  | .cons member format members, (v, vs), item, h => by
    -- A member that is left out adds no name.
    rw [Members.toJson] at h
    split at h
    · exact List.mem_cons_of_mem _ (toJson_names members vs item h)
    · rcases List.mem_cons.1 h with rfl | h
      · exact List.mem_cons_self
      · exact List.mem_cons_of_mem _ (toJson_names members vs item h)

mutual
/-- **Records are written as objects.** -/
theorem Format.asObjects_toJson : ∀ (format : Format) (v : format.Val), format.wellFormed →
    format.asObjects (format.toJson v)
  | .text, _, _ | .flag, _, _ | .word, _, _ | .kind, _, _ | .entry, _, _ => rfl
  | .optional inner, none, _ => inner.asObjects_null
  | .optional inner, some v, h => by
    rw [Format.wellFormed, Bool.and_eq_true] at h
    exact Format.asObjects_toJson inner v h.2
  | .list inner, (vs : List inner.Val), h => by
    change (Values.ofList (vs.map inner.toJson)).toList.all inner.asObjects = true
    rw [Values.toList_ofList, List.all_map, List.all_eq_true]
    exact fun v _ => Format.asObjects_toJson inner v h
  | .record _ members, vs, h => List.all_eq_true.2 (Members.asObjects_toJson members vs h)

/-- **Members are written as objects** wherever they are records. -/
theorem Members.asObjects_toJson : ∀ (members : Members) (vs : members.Val), members.wellFormed →
    ∀ item ∈ (members.toJson vs).toList, members.asObjectsAt item.1 item.2
  | .nil, _, _, _, _ => rfl
  | .cons member format members, (v, vs), hwf, item, hitem => by
    obtain ⟨hunique, -, hformat, hwf⟩ := Members.wellFormed_cons hwf
    -- The members after this one bear other names, so its own rule does not concern them.
    have hothers : ∀ item ∈ (members.toJson vs).toList,
        (Members.cons member format members).asObjectsAt item.1 item.2 := by
      intro item hitem
      have hname : item.1 ≠ member.name := fun heq =>
        hunique (heq ▸ members.toJson_names vs item hitem)
      exact Members.asObjectsAt_cons.2 ⟨fun heq => absurd heq hname,
        Members.asObjects_toJson members vs hwf item hitem⟩
    rw [Members.toJson] at hitem
    split at hitem
    · exact hothers item hitem
    · rcases List.mem_cons.1 hitem with rfl | hitem
      · exact Members.asObjectsAt_cons.2 ⟨fun _ => Format.asObjects_toJson format v hformat,
          members.asObjectsAt_other hunique⟩
      · exact hothers item hitem
end

/-! ### Snapshots -/

/-- In the schema of snapshots, all references lead to their definitions. -/
theorem resolved_snapshotSchema : Resolved snapshotSchema catalogMembers.definitions := by
  refine resolved_publish catalogLabel (fun definition hdefinition => ?_)
    (fun definition hdefinition => ?_)
  · -- Each definition is the one that is found under its name, which is a matter of going through
    -- them.
    have hall : ∀ definition ∈ catalogMembers.definitions,
        catalogMembers.definitions.lookup definition.1 = some definition.2 := by
      repeat refine List.forall_mem_cons.2 ⟨rfl, ?_⟩
      exact List.forall_mem_nil _
    exact hall definition hdefinition
  · -- No name has a character that a pointer would escape.
    have hall : (catalogMembers.definitions.all fun definition => definition.1.toList.all fun c =>
        decide (c ≠ '/' ∧ c ≠ '~' ∧ c ≠ '%')) = true := by
      decide
    have hname := List.all_eq_true.1 hall definition hdefinition
    exact fun c hc => of_decide_eq_true (List.all_eq_true.1 hname c hc)

end SchemaDiagram.Snapshot

namespace SchemaDiagram

open Snapshot Json

/-- **The published schema accepts what is read.** It accepts the values that the format of catalogs
admits and no others. Every value that is read as a catalog from a text that spells it is one of
them, if the records in it are objects; so are the values that are written for catalogs. -/
theorem published_schema_accepts :
    (∀ value : Value, snapshotSchema.Accepts value ↔ catalogFormat.admits value) ∧
    (∀ (text : String) (value : Value) (v : catalogFormat.Val), value.Spells text →
      catalogFormat.asObjects value → catalogFormat.parse text = .ok v →
      snapshotSchema.Accepts value) ∧
    ∀ c : Catalog, (catalogFormat.toJson c.toVal).Spells c.toSnapshot ∧
      catalogFormat.asObjects (catalogFormat.toJson c.toVal) ∧
      catalogFormat.parse c.toSnapshot = .ok c.toVal ∧
      snapshotSchema.Accepts (catalogFormat.toJson c.toVal) := by
  have hexactly : ∀ value : Value, snapshotSchema.Accepts value ↔ catalogFormat.admits value :=
    publish_accepts catalogFormat_wellFormed resolved_snapshotSchema
  have hread : ∀ (text : String) (value : Value) (v : catalogFormat.Val), value.Spells text →
      catalogFormat.asObjects value → catalogFormat.parse text = .ok v →
      snapshotSchema.Accepts value := fun text value v hspells hobjects hok =>
    (hexactly value).2 (Format.admits_of_parse catalogFormat_wellFormed hspells hobjects hok)
  refine ⟨hexactly, hread, fun c => ?_⟩
  -- What is written for a catalog is a text that spells the value and is read as it.
  have hspells : (catalogFormat.toJson c.toVal).Spells c.toSnapshot := Value.spells_pretty _
  have hobjects := catalogFormat.asObjects_toJson c.toVal catalogFormat_wellFormed
  have hok : catalogFormat.parse c.toSnapshot = .ok c.toVal :=
    Format.parse_of_spells catalogFormat_wellFormed
      (c.spells_toSnapshot rfl (List.append_nil _).symm)
  exact ⟨hspells, hobjects, hok, hread _ _ _ hspells hobjects hok⟩

/-- A catalog written by hand is read, and accepted by the published schema. -/
theorem published_schema_accepts_byHand :
    (Value.object ByHand.catalogMembers).Spells ByHand.text ∧
      catalogFormat.asObjects (.object ByHand.catalogMembers) ∧
      catalogFormat.parse ByHand.text = .ok ByHand.catalog.toVal ∧
      snapshotSchema.Accepts (.object ByHand.catalogMembers) := by
  have hspells : (Value.object ByHand.catalogMembers).Spells ByHand.text := Value.spells_write _ 3
  have hobjects : catalogFormat.asObjects (.object ByHand.catalogMembers) := rfl
  have hok := Format.parse_of_spells catalogFormat_wellFormed ByHand.text_spells
  exact ⟨hspells, hobjects, hok, published_schema_accepts.2.1 _ _ _ hspells hobjects hok⟩

end SchemaDiagram
