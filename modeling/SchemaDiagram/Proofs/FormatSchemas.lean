import SchemaDiagram.Proofs.JsonSchema
import SchemaDiagram.Proofs.Records
import SchemaDiagram.Snapshot.Admission

/-!
# The schemas of formats

The keywords of a format have a verdict on every value, and it is positive for the values that the
format admits and no others (`Format.keywords_give`).

References are what makes this more than a walk through the format. They are resolved in the whole
schema, so the definitions that a format refers to must be found there under their names
(`Resolved`). How deep the evaluation goes is bounded by the format alone (`Format.depth`).
-/

namespace SchemaDiagram.Snapshot

open Json

variable {root v : Value} {fuel : Nat} {b b' : Bool}

/-! ### Schema objects -/

/-- The order of keywords changes nothing but their order. -/
theorem ordered_eq (keywords : Keywords) :
    ∃ members, ordered keywords = .ofMembers members ∧
      ∀ keyword, keyword ∈ members ↔ keyword ∈ keywords := by
  -- Ordering parts the keywords into leading ones, definitions, and others sorted by name.
  refine ⟨_, rfl, fun keyword => ?_⟩
  rw [List.mem_append, List.mem_append, List.mem_flatMap, List.mem_mergeSort]
  simp only [List.mem_filter, decide_eq_true_eq]
  constructor
  · rintro ((⟨_, _, h, -⟩ | ⟨h, -⟩) | ⟨h, -⟩) <;> exact h
  · intro h
    -- Every keyword is in one of the three groups.
    by_cases hleading : keyword.1 ∈ leadingKeywords
    · exact .inl (.inl ⟨keyword.1, hleading, h, rfl⟩)
    · by_cases hdefs : keyword.1 = "$defs"
      · exact .inr ⟨h, hdefs⟩
      · exact .inl (.inr ⟨h, hleading, hdefs⟩)

/-- An ordered schema object has the verdict of its keywords, one step up. -/
theorem judge_ordered {keywords : Keywords} (h : GiveAll (judge root fuel) root keywords v b) :
    judge root (fuel + 1) (ordered keywords) v = some b := by
  obtain ⟨members, heq, hmem⟩ := ordered_eq keywords
  rw [heq]
  exact (h.of_mem_iff hmem).judge

section Keywords

variable {apply : Value → Value → Option Bool}

/-- A description has no verdict of its own, and so holds. -/
theorem give_description (doc : String) (v : Value) :
    GiveAll apply root (description doc) v true :=
  .single (gives_annotated (by decide) _ _)

/-- A default has no verdict either, where there is one. -/
theorem give_defaultKeyword (format : Format) (v : Value) :
    GiveAll apply root (defaultKeyword format) v true := by
  unfold defaultKeyword
  split
  · exact .single (gives_annotated (by decide) _ _)
  · exact .single (gives_annotated (by decide) _ _)
  · exact .nil

/-- A value of another type. -/
theorem give_other_type {type : String} {others : Keywords} (htype : type ∈ typeNames)
    (h : decide (type ∈ v.types) = false) (hothers : GiveAll apply root others v b) :
    GiveAll apply root (("type", .string type) :: others) v false := by
  have hall := GiveAll.cons (gives_type htype v) hothers
  rwa [h, Bool.false_and] at hall

/-! ### References -/

/-- **The definitions that a format refers to** are found in the whole schema. -/
def Resolved (root : Value) (definitions : Keywords) : Prop :=
  ∀ definition ∈ definitions,
    resolveReference root ("#/$defs/" ++ definition.1) = some definition.2

/-- A reference says what the definition says. -/
theorem give_reference {name : String} {definition : Value}
    (h : resolveReference root ("#/$defs/" ++ name) = some definition)
    (hv : apply definition v = some b) : GiveAll apply root (reference name) v b := by
  refine .single fun keywords => ?_
  change (resolveReference root ("#/$defs/" ++ name) >>= fun schema => apply schema v) = _
  rw [h]
  exact hv

end Keywords

/-! ### Types -/

/-- The texts are the values of type string. -/
theorem string_mem_types (v : Value) : decide ("string" ∈ v.types) = isText v := by
  -- A number has one of two other types, by whether it is whole.
  cases v with
  | number => exact types_number (by decide)
  | null | bool | string | array | object => rfl

/-- The flags are the values of type boolean. -/
theorem boolean_mem_types (v : Value) : decide ("boolean" ∈ v.types) = Format.flag.admits v := by
  cases v with
  | number => exact types_number (by decide)
  | null | bool | string | array | object => rfl

/-! ### Definitions -/

/-- **The definition of relation kinds** holds of the names under which kinds are written. -/
theorem judge_kindDefinition (v : Value) :
    judge root (fuel + 1) kindDefinition v = some (Format.kind.admits v) := by
  have henum : Gives (judge root fuel) root
      ("enum", .ofList (RelationKind.all.map fun k => .string k.tag)) v
      ((RelationKind.all.map fun k => Value.string k.tag).any v.same) := by
    intro keywords
    change some ((Values.ofList _).toList.any v.same) = _
    rw [Values.toList_ofList]
  -- A text is compared with the names; any other value has another type.
  cases v with
  | string tag => exact judge_ordered (.cons (gives_type (by decide) _) (.single henum))
  | number =>
    exact judge_ordered
      (give_other_type (by decide) (types_number (by decide)) (.single henum))
  | null | bool | array | object =>
    exact judge_ordered (give_other_type (by decide) rfl (.single henum))

/-- The keywords of a case of an index entry, in their order. -/
theorem entryCaseSchema_eq (name doc : String) : entryCaseSchema name doc = .ofMembers
    [("description", .string doc), ("type", .string "object"),
      ("properties", .ofMembers [(name, ordered [("type", .string "string")])]),
      ("additionalProperties", .bool false), ("required", .ofList [.string name])] := by
  have hsorted : [("additionalProperties", Value.bool false),
      ("required", Value.ofList [.string name])].mergeSort (fun a b => decide (a.1 ≤ b.1)) =
      [("additionalProperties", .bool false), ("required", .ofList [.string name])] := by
    have hle : "additionalProperties" ≤ "required" := by decide
    refine List.mergeSort_of_pairwise (List.pairwise_pair.2 ?_)
    exact decide_eq_true hle
  have hothers : ((description doc ++ [("type", Value.string "object"),
      ("properties", .ofMembers [(name, ordered [("type", .string "string")])]),
      ("additionalProperties", .bool false),
      ("required", .ofList [.string name])]).filter fun k =>
        decide (k.1 ∉ leadingKeywords ∧ k.1 ≠ "$defs")) =
      [("additionalProperties", .bool false), ("required", .ofList [.string name])] := rfl
  rw [entryCaseSchema, ordered, hothers, hsorted]
  rfl

/-- The only property of a case is a string. -/
theorem gives_entryCase_properties (name : String) (object : ObjectMembers) :
    Gives (judge root (fuel + 1)) root
      ("properties", .ofMembers [(name, ordered [("type", .string "string")])]) (.object object)
      (object.toList.all fun item => decide (item.1 ≠ name) || isText item.2) := by
  refine gives_properties (f := fun key v => decide (key ≠ name) || isText v)
    (fun item _ schema hschema => ?_) fun item _ hnone => ?_
  -- An item of the name of the case has the schema of a text, and any other item has none.
  · obtain ⟨hname, rfl⟩ := Prod.mk.inj (List.mem_singleton.1 (mem_of_lookup hschema))
    have htext := judge_ordered (.single (gives_type (by decide) item.2) :
      GiveAll (judge root fuel) root [("type", .string "string")] item.2 _)
    rw [htext, string_mem_types, decide_eq_false (not_not_intro hname), Bool.false_or]
  · have hname := List.lookup_eq_none_iff.1 hnone _ List.mem_cons_self
    rw [decide_eq_true (bne_iff_ne.1 hname), Bool.true_or]

/-- **A case of an index entry** holds of the objects that have nothing but a text of its name. -/
theorem judge_entryCase (name doc : String) (object : ObjectMembers) :
    judge root (fuel + 2) (entryCaseSchema name doc) (.object object) =
      some (isEntryCase name object) := by
  let schemas : Keywords := [(name, ordered [("type", .string "string")])]
  -- The description and the type hold in any event.
  have hverdicts : judge root (fuel + 2) (entryCaseSchema name doc) (.object object) =
      allHold [some true, some true,
        judgeKeyword (judge root (fuel + 1)) root [] ("properties", .ofMembers schemas)
          (.object object),
        judgeAdditional (judge root (fuel + 1)) (some (.ofMembers schemas)) (.bool false)
          (.object object),
        judgeRequired (.ofList ([name].map .string)) (.object object)] := by
    rw [entryCaseSchema_eq]
    rfl
  rw [hverdicts, gives_entryCase_properties, judgeAdditional_false, judgeRequired_eq]
  refine (allHold_eq [true, true, _, _, _]).trans (congrArg some (Bool.eq_iff_iff.2 ?_))
  simp only [schemas, List.map_cons, List.map_nil, List.mem_singleton, List.all_cons, List.all_nil,
    id, Bool.and_true, Bool.true_and, isEntryCase, Bool.and_eq_true, List.all_eq_true,
    Bool.or_eq_true, decide_eq_true_eq]
  constructor
  · rintro ⟨htexts, hnames, hname⟩
    exact ⟨fun item hitem =>
      ⟨hnames item hitem, (htexts item hitem).resolve_left (not_not_intro (hnames item hitem))⟩,
      hname⟩
  · rintro ⟨hitems, hname⟩
    exact ⟨fun item hitem => .inr (hitems item hitem).2, fun item hitem => (hitems item hitem).1,
      hname⟩

/-- A case of an index entry does not hold of what is no object. -/
theorem judge_entryCase_other (name doc : String) (h : decide ("object" ∈ v.types) = false) :
    judge root (fuel + 1) (entryCaseSchema name doc) v = some false := by
  have hverdicts : judge root (fuel + 1) (entryCaseSchema name doc) v =
      allHold [some true, hasType v (.string "object"), some true, some true, some true] := by
    rw [entryCaseSchema_eq]
    cases v with
    | object object => cases h
    | null | bool | number | string | array => rfl
  rw [hverdicts, hasType_eq (by decide), h]
  rfl

/-- An object is of one case at most, since it has only one name. -/
theorem isEntryCase_unique {name name' : String} {object : ObjectMembers}
    (h : isEntryCase name object) (h' : isEntryCase name' object) : name = name' := by
  rw [isEntryCase, Bool.and_eq_true, List.all_eq_true, decide_eq_true_eq] at h h'
  obtain ⟨item, hitem, hname⟩ := List.mem_map.1 h.2
  have hother := (Bool.and_eq_true_iff.1 (h'.1 item hitem)).1
  exact hname.symm.trans (of_decide_eq_true hother)

/-- **The definition of index entries** holds of the objects of exactly one case. -/
theorem judge_entryDefinition (v : Value) :
    judge root (fuel + 3) entryDefinition v = some (Format.entry.admits v) := by
  have hdefinition : ∀ {b b' : Bool}, (∀ doc,
      judge root (fuel + 2) (entryCaseSchema "column" doc) v = some b) → (∀ doc,
      judge root (fuel + 2) (entryCaseSchema "expression" doc) v = some b') →
      judge root (fuel + 3) entryDefinition v = some (b != b') := by
    intro b b' hcolumn hexpression
    refine judge_ordered ((give_description _ v).append (.single ?_))
    exact gives_oneOf (hcolumn _) (hexpression _)
  have hother : decide ("object" ∈ v.types) = false →
      judge root (fuel + 3) entryDefinition v = some false := fun h =>
    hdefinition (fun _ => judge_entryCase_other _ _ h) fun _ => judge_entryCase_other _ _ h
  cases v with
  | object object =>
    rw [hdefinition (fun _ => judge_entryCase _ _ object) fun _ => judge_entryCase _ _ object]
    change some _ = some (isEntryCase "column" object || (isEntryCase "expression" object || false))
    -- An object is at most one of the two cases.
    cases hcolumn : isEntryCase "column" object with
    | false => rw [Bool.false_bne, Bool.or_false, Bool.false_or]
    | true =>
      cases hexpression : isEntryCase "expression" object with
      | false => rfl
      | true => exact absurd (isEntryCase_unique hcolumn hexpression) (by decide)
  | number => exact hother (types_number (by decide))
  | null | bool | string | array => exact hother rfl

/-! ### Formats -/

mutual
/-- **The depth** of the schema of a format. -/
def Format.depth : Format → Nat
  | .text | .flag | .word => 0
  | .kind => 1
  | .entry => 3
  | .optional inner => inner.depth + 1
  | .list inner => inner.depth + 1
  | .record _ members => members.depth + 1

/-- The depth of the schemas of members. -/
def Members.depth : Members → Nat
  | .nil => 0
  | .cons _ format rest => max (format.depth + 1) rest.depth
end

/-- **The keywords of a format give** what it admits, at every depth that suffices. -/
def Format.Published (root : Value) (format : Format) : Prop :=
  ∀ fuel, format.depth ≤ fuel → ∀ v,
    GiveAll (judge root fuel) root format.keywords v (format.admits v)

/-- The numbers from zero on are those whose significand is not negative. -/
theorem gives_minimum (significand exponent : Int) :
    Gives (judge root fuel) root ("minimum", .ofNat 0) (.number significand exponent)
      (decide (0 ≤ significand)) := by
  intro keywords
  change some (numberLe 0 0 significand exponent) = _
  have hpower : (0 : Int) < Nat.pow 10 (exponent - min 0 exponent).toNat := by
    exact_mod_cast Nat.pow_pos (by decide : 0 < 10)
  -- Zero at any power of ten, so the other side is compared by its sign.
  rw [numberLe, Int.zero_mul]
  exact congrArg some (decide_eq_decide.2 (Int.mul_nonneg_iff_of_pos_right hpower))

/-- **Words** are published as whole numbers from zero on. -/
theorem published_word : Format.word.Published root := by
  intro fuel _ v
  have hformat : Gives (judge root fuel) root ("format", .string "uint32") v true :=
    gives_annotated (by decide) _ _
  -- Whole numbers have the type, and the minimum takes their sign.
  cases v with
  | number significand exponent =>
    have htype : Gives (judge root fuel) root ("type", .string "integer")
        (.number significand exponent) (isWhole significand exponent) := by
      rw [← integer_mem_types]
      exact gives_type (by decide) _
    have hall := GiveAll.cons htype (.cons hformat (.single (gives_minimum significand exponent)))
    rwa [Bool.true_and] at hall
  | null | bool | string | array | object =>
    exact give_other_type (by decide) rfl (.cons hformat (.single fun keywords => rfl))

/-- **Lists** are published as arrays whose items are what the format of the entries says. -/
theorem published_list {inner : Format} (h : inner.Published root) :
    (Format.list inner).Published root := by
  intro fuel hfuel v
  obtain ⟨fuel, rfl⟩ := Nat.exists_eq_add_one_of_ne_zero (Nat.ne_zero_of_lt hfuel)
  -- The entries are judged one step down.
  have hentry := fun entry => judge_ordered (h fuel (Nat.le_of_succ_le_succ hfuel) entry)
  cases v with
  | array entries =>
    exact .cons (gives_type (by decide) _) (.single (gives_items fun entry _ => hentry entry))
  | number =>
    exact give_other_type (by decide) (types_number (by decide))
      (.single fun keywords => rfl)
  | null | bool | string | object =>
    exact give_other_type (by decide) rfl (.single fun keywords => rfl)

/-! #### Optional values -/

/-- The type that is named may also be `null`. -/
theorem give_nullable_typed {apply : Value → Value → Option Bool} {type : String}
    {others : Keywords} {inner : Format} (htype : type ∈ typeNames)
    (hnull : GiveAll apply root others .null true)
    (h : GiveAll apply root (("type", .string type) :: others) v (inner.admits v)) :
    GiveAll apply root (("type", .ofList [.string type, .string "null"]) :: others) v
      ((Format.optional inner).admits v) := by
  have htypes : Gives apply root ("type", .ofList [.string type, .string "null"]) v
      (decide (type ∈ v.types) || decide ("null" ∈ v.types)) := gives_types htype (by decide) v
  by_cases hv : v = .null
  · subst hv
    have hall := GiveAll.cons htypes hnull
    rwa [decide_eq_true (null_mem_types.2 rfl), Bool.or_true] at hall
  · obtain ⟨b, hothers, hb⟩ := h.of_cons (gives_type htype v)
    have hall := GiveAll.cons htypes hothers
    rwa [decide_eq_false (mt null_mem_types.1 hv), Bool.or_false, ← hb,
      ← Format.admits_optional hv] at hall

/-- The other schema may be that of `null`. -/
theorem gives_nullable_anyOf {keywords : Keywords} {inner : Format}
    (h : GiveAll (judge root fuel) root keywords v (inner.admits v)) :
    Gives (judge root (fuel + 1)) root
      ("anyOf", .ofList [ordered keywords, ordered [("type", .string "null")]]) v
      ((Format.optional inner).admits v) := by
  have hnull : judge root (fuel + 1) (ordered [("type", .string "null")]) v =
      some (decide ("null" ∈ v.types)) := judge_ordered (.single (gives_type (by decide) v))
  have hanyOf : Gives (judge root (fuel + 1)) root
      ("anyOf", .ofList [ordered keywords, ordered [("type", .string "null")]]) v
      (inner.admits v || decide ("null" ∈ v.types)) := gives_anyOf (judge_ordered h) hnull
  by_cases hv : v = .null
  -- A null passes by the second schema, and any other value by the first or not at all.
  · subst hv
    rwa [decide_eq_true (null_mem_types.2 rfl), Bool.or_true] at hanyOf
  · rwa [decide_eq_false (mt null_mem_types.1 hv), Bool.or_false,
      ← Format.admits_optional hv] at hanyOf

/-- **Optional values:** `null`, or what the format without it admits. -/
theorem published_optional {inner : Format} (hoptional : ¬ inner.isOptional)
    (h : inner.Published root) : (Format.optional inner).Published root := by
  intro fuel hfuel v
  obtain ⟨fuel, rfl⟩ := Nat.exists_eq_add_one_of_ne_zero (Nat.ne_zero_of_lt hfuel)
  have hfuel : inner.depth ≤ fuel := Nat.le_of_succ_le_succ hfuel
  -- A type is widened where it stands, an `anyOf` goes one step down.
  have htyped := h (fuel + 1) (Nat.le_succ_of_le hfuel) v
  have hanyOf := gives_nullable_anyOf (h fuel hfuel v)
  cases inner with
  | text => exact give_nullable_typed (by decide) .nil htyped
  | flag => exact give_nullable_typed (by decide) .nil htyped
  | word =>
    have hformat : Gives (judge root (fuel + 1)) root ("format", .string "uint32") .null true :=
      gives_annotated (by decide) _ _
    exact give_nullable_typed (by decide) (.cons hformat (.single fun keywords => rfl)) htyped
  | kind => exact .single hanyOf
  | entry => exact .single hanyOf
  | optional inner => exact absurd rfl hoptional
  | list inner => exact give_nullable_typed (by decide) (.single fun keywords => rfl) htyped
  | record label members => exact .single hanyOf

/-! #### Records -/

/-- The properties of a record bear the names of its members, in their order. -/
theorem Members.names_properties : ∀ members : Members,
    members.properties.map (·.1) = members.names
  | .nil => rfl
  | .cons member _ members => congrArg (member.name :: ·) (names_properties members)

/-- The members of an object are what is said about them, and the required ones are there. -/
theorem Members.keywords_give_object {members : Members} (object : ObjectMembers)
    (h : ∀ item ∈ object.toList, ∀ schema, (item.1, schema) ∈ members.properties →
      judge root fuel schema item.2 = some (members.admitsAt item.1 item.2)) :
    GiveAll (judge root fuel) root members.keywords (.object object)
      ((object.toList.all fun item => members.admitsAt item.1 item.2) &&
        members.requiredNames.all fun name => decide (name ∈ object.toList.map (·.1))) := by
  have htype : Gives (judge root fuel) root ("type", .string "object") (.object object) true :=
    fun keywords => rfl
  have hproperties : Gives (judge root fuel) root ("properties", sortedObject members.properties)
      (.object object) (object.toList.all fun item => members.admitsAt item.1 item.2) := by
    refine gives_properties (fun item hitem schema hschema => ?_) fun item _ hnone => ?_
    · exact h item hitem schema (List.mem_mergeSort.1 (mem_of_lookup hschema))
    · -- The names that have a schema are those of the members.
      refine members.admitsAt_other fun hname => ?_
      rw [← members.names_properties] at hname
      obtain ⟨property, hmem, heq⟩ := List.mem_map.1 hname
      have hother := List.lookup_eq_none_iff.1 hnone property (List.mem_mergeSort.2 hmem)
      exact bne_iff_ne.1 hother heq.symm
  have htyped := GiveAll.cons htype (.single hproperties)
  rw [Bool.true_and] at htyped
  refine htyped.append ?_
  split
  · next hnames =>
    -- Nothing is required, and there is no keyword that would say so.
    rw [hnames]
    exact .nil
  · exact .single fun keywords => judgeRequired_eq members.requiredNames object

/-- The keywords of a record do not hold of what is no object. -/
theorem Members.keywords_give_other (members : Members)
    (h : decide ("object" ∈ v.types) = false) :
    GiveAll (judge root fuel) root members.keywords v false := by
  have hproperties : Gives (judge root fuel) root ("properties", sortedObject members.properties) v
      true := by
    intro keywords
    cases v with
    | object object => cases h
    | null | bool | number | string | array => rfl
  change GiveAll _ root _ v (false && true)
  refine (give_other_type (by decide) h (.single hproperties)).append ?_
  split
  · exact .nil
  · refine .single fun keywords => ?_
    cases v with
    | object object => cases h
    | null | bool | number | string | array => rfl

/-- **The keywords of a record** are those of its members. -/
theorem Members.keywords_give {members : Members} (label : Label)
    (h : ∀ name v schema, (name, schema) ∈ members.properties →
      judge root fuel schema v = some (members.admitsAt name v)) :
    GiveAll (judge root fuel) root members.keywords v ((Format.record label members).admits v) := by
  cases v with
  | object object => exact keywords_give_object object fun item _ => h item.1 item.2
  | number => exact members.keywords_give_other (types_number (by decide))
  | null | bool | string | array => exact members.keywords_give_other rfl

mutual
/-- **The keywords of a format** say exactly what it admits. -/
theorem Format.keywords_give : ∀ format : Format, format.wellFormed →
    Resolved root format.definitions → format.Published root
  -- A type alone, which says the same as the format.
  | .text, _, _, fuel, _, v => by
    change GiveAll _ root _ v (isText v)
    rw [← string_mem_types]
    exact .single (gives_type (by decide) v)
  | .flag, _, _, fuel, _, v => by
    rw [← boolean_mem_types]
    exact .single (gives_type (by decide) v)
  | .word, _, _, fuel, hfuel, v => published_word fuel hfuel v
  -- The definitions of kinds, entries and records are found by references.
  | .kind, _, hresolved, fuel + 1, _, v =>
    give_reference (hresolved _ List.mem_cons_self) (judge_kindDefinition v)
  | .entry, _, hresolved, fuel + 3, _, v =>
    give_reference (hresolved _ List.mem_cons_self) (judge_entryDefinition v)
  | .optional inner, hwf, hresolved, fuel, hfuel, v => by
    rw [Format.wellFormed, Bool.and_eq_true, Bool.not_eq_true'] at hwf
    exact published_optional (Bool.eq_false_iff.1 hwf.1)
      (Format.keywords_give inner hwf.2 hresolved) fuel hfuel v
  | .list inner, hwf, hresolved, fuel, hfuel, v =>
    published_list (Format.keywords_give inner hwf hresolved) fuel hfuel v
  | .record label members, hwf, hresolved, fuel + 1, hfuel, v => by
    -- The definition of the record comes before those of its members.
    obtain ⟨hdefinition, hresolved⟩ := List.forall_mem_cons.1 hresolved
    have hmembers := Members.keywords_give label (v := v) fun name v schema hschema =>
      Members.properties_give members hwf hresolved schema fuel hschema
        (Nat.le_of_succ_le_succ hfuel) v
    have hrecord := (give_description label.doc v).append hmembers
    rw [Bool.true_and] at hrecord
    exact give_reference hdefinition (judge_ordered hrecord)
  -- There is fuel for all of them.
  | .kind, _, _, 0, h, _ => absurd h (by decide)
  | .entry, _, _, 0, h, _ => absurd h (by decide)
  | .entry, _, _, 1, h, _ => absurd h (by decide)
  | .entry, _, _, 2, h, _ => absurd h (by decide)
  | .record _ _, _, _, 0, h, _ => absurd h (Nat.not_succ_le_zero _)

/-- The schema for a name says exactly what the members admit under it. -/
theorem Members.properties_give {name : String} : ∀ members : Members, members.wellFormed →
    Resolved root members.definitions → ∀ schema fuel, (name, schema) ∈ members.properties →
      members.depth ≤ fuel → ∀ v, judge root fuel schema v = some (members.admitsAt name v)
  | .nil, _, _, _, _, hschema, _, _ => absurd hschema List.not_mem_nil
  | .cons member format members, hwf, hresolved, schema, fuel, hschema, hfuel, v => by
    obtain ⟨hunique, -, hformat, hwf⟩ := Members.wellFormed_cons hwf
    obtain ⟨hresolved, hresolved'⟩ := List.forall_mem_append.1 hresolved
    obtain ⟨hdepth, hfuel⟩ := Nat.max_le.1 hfuel
    -- The property of this name is the member itself, or one of those after it.
    rcases List.mem_cons.1 hschema with heq | hschema
    · obtain ⟨rfl, rfl⟩ := Prod.mk.inj heq
      obtain ⟨fuel, rfl⟩ := Nat.exists_eq_add_one_of_ne_zero (Nat.ne_zero_of_lt hdepth)
      have hkeywords := Format.keywords_give format hformat hresolved fuel
        (Nat.le_of_succ_le_succ hdepth) v
      have hdefault : GiveAll (judge root fuel) root
          (if member.mayBeAbsent then defaultKeyword format else []) v true := by
        split
        · exact give_defaultKeyword format v
        · exact .nil
      have hall := ((give_description member.doc v).append hkeywords).append hdefault
      rw [Bool.true_and, Bool.and_true] at hall
      rw [Members.admitsAt, decide_eq_false (not_not_intro rfl), Bool.false_or,
        members.admitsAt_other hunique, Bool.and_true]
      exact judge_ordered hall
    · -- Of another name, because names are unique.
      have hname : name ≠ member.name := by
        rintro rfl
        rw [← members.names_properties] at hunique
        exact hunique (List.mem_map_of_mem hschema)
      rw [Members.admitsAt, decide_eq_true hname, Bool.true_or, Bool.true_and]
      exact Members.properties_give members hwf hresolved' schema fuel hschema hfuel v
end

end SchemaDiagram.Snapshot
