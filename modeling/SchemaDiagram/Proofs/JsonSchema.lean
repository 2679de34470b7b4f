import SchemaDiagram.Json.Schema
import SchemaDiagram.Proofs.Names

/-!
# Verdicts of JSON Schemas

What the verdict of a schema is. Lists of verdicts come first, where all of them have to be there
(`exists_verdicts`). Most keywords give a verdict whatever keywords stand beside them (`Gives`). The
verdict of keywords together does not depend on their order (`GiveAll`), and it is the one of the
schema object that is made of them (`GiveAll.judge`).

References are followed by name, where names have no character that a pointer would escape
(`resolveReference_definition`).
-/

namespace SchemaDiagram.Json

/-- A list of values is the list of the entries that it is written as. -/
@[simp] theorem Values.toList_ofList : ∀ vs : List Value, (Values.ofList vs).toList = vs
  | [] => rfl
  | v :: vs => congrArg (v :: ·) (toList_ofList vs)

/-- A list of members is the list of the members that it is written as. -/
@[simp] theorem ObjectMembers.toList_ofList :
    ∀ members : List (String × Value), (ObjectMembers.ofList members).toList = members
  | [] => rfl
  | (name, v) :: members => congrArg ((name, v) :: ·) (toList_ofList members)

/-! ### Lists of verdicts -/

/-- Where all verdicts are there, the positive ones are counted. -/
theorem countHolding_eq (verdicts : List Bool) :
    countHolding (verdicts.map some) = some (verdicts.count true) := by
  have hmap : (verdicts.map some).mapM (id : Option Bool → Option Bool) = some verdicts := by
    induction verdicts with
    | nil => rfl
    | cons b bs ih =>
      rw [List.map_cons, List.mapM_cons, ih]
      rfl
  rw [countHolding, hmap]
  rfl

/-- Where all verdicts are there, all hold if all are positive. -/
theorem allHold_eq (verdicts : List Bool) :
    allHold (verdicts.map some) = some (verdicts.all id) := by
  -- All of them are positive just in case as many are positive as there are.
  have hcount : verdicts.count true = verdicts.length ↔ verdicts.all id = true := by
    rw [List.count_eq_length, List.all_eq_true]
    exact forall₂_congr fun b _ => eq_comm
  rw [allHold, countHolding_eq, List.length_map]
  exact congrArg some (Bool.eq_iff_iff.2 (decide_eq_true_iff.trans hcount))

/-- Where all verdicts are there, one of them holds if one is positive. -/
theorem anyHolds_eq (verdicts : List Bool) :
    anyHolds (verdicts.map some) = some (verdicts.any id) := by
  have hcount : 0 < verdicts.count true ↔ verdicts.any id = true := by
    rw [List.count_pos_iff, List.any_eq_true]
    exact ⟨fun h => ⟨true, h, rfl⟩, fun ⟨b, hb, htrue⟩ => htrue ▸ hb⟩
  rw [anyHolds, countHolding_eq]
  exact congrArg some (Bool.eq_iff_iff.2 (decide_eq_true_iff.trans hcount))

/-- Where all verdicts are there, exactly one holds if exactly one is positive. -/
theorem oneHolds_eq (verdicts : List Bool) :
    oneHolds (verdicts.map some) = some (decide (verdicts.count true = 1)) := by
  rw [oneHolds, countHolding_eq]
  rfl

variable {verdicts : List (Option Bool)}

/-- Where all verdicts are there, they are a list of truth values. -/
theorem exists_verdicts (h : ∀ verdict ∈ verdicts, ∃ b, verdict = some b) :
    ∃ bs : List Bool, verdicts = bs.map some := by
  -- By the verdicts, one truth value after the other.
  induction verdicts with
  | nil => exact ⟨[], rfl⟩
  | cons verdict verdicts ih =>
    obtain ⟨b, rfl⟩ := h _ List.mem_cons_self
    obtain ⟨bs, rfl⟩ := ih fun verdict hmem => h verdict (List.mem_cons_of_mem _ hmem)
    exact ⟨b :: bs, rfl⟩

/-- **All of them:** the verdict is positive if each one is. -/
theorem allHold_eq_some (h : ∀ verdict ∈ verdicts, ∃ b, verdict = some b) {b : Bool}
    (hb : b ↔ ∀ verdict ∈ verdicts, verdict = some true) : allHold verdicts = some b := by
  obtain ⟨bs, rfl⟩ := exists_verdicts h
  rw [allHold_eq]
  refine congrArg some (Bool.eq_iff_iff.2 ?_)
  rw [hb, List.forall_mem_map, List.all_eq_true]
  exact forall₂_congr fun b _ => (Option.some.injEq b true).to_iff.symm

/-- The verdicts on the entries of a list. -/
theorem allHold_map {α : Type} {as : List α} {verdict : α → Option Bool} {f : α → Bool}
    (h : ∀ a ∈ as, verdict a = some (f a)) : allHold (as.map verdict) = some (as.all f) := by
  have hverdicts : as.map verdict = (as.map f).map some := by
    rw [List.map_map]
    exact List.map_congr_left h
  rw [hverdicts, allHold_eq, List.all_map]
  rfl

/-! ### Schema objects -/

variable {apply : Value → Value → Option Bool} {root v : Value} {keyword : String × Value}
  {keywords : List (String × Value)} {b b' : Bool}

/-- **The verdict of a keyword,** whatever keywords stand beside it. -/
def Gives (apply : Value → Value → Option Bool) (root : Value) (keyword : String × Value)
    (v : Value) (b : Bool) : Prop :=
  ∀ keywords, judgeKeyword apply root keywords keyword v = some b

/-- A keyword has one verdict on a value. -/
theorem Gives.unique (h : Gives apply root keyword v b) (h' : Gives apply root keyword v b') :
    b = b' :=
  Option.some.inj ((h []).symm.trans (h' []))

/-- **The verdict of keywords together:** each of them has one, and it is positive if all of these
are. -/
structure GiveAll (apply : Value → Value → Option Bool) (root : Value)
    (keywords : List (String × Value)) (v : Value) (b : Bool) : Prop where
  each : ∀ keyword ∈ keywords, ∃ b, Gives apply root keyword v b
  all : b ↔ ∀ keyword ∈ keywords, Gives apply root keyword v true

namespace GiveAll

/-- No keywords hold. -/
theorem nil : GiveAll apply root [] v true :=
  ⟨List.forall_mem_nil _, iff_of_true rfl (List.forall_mem_nil _)⟩

/-- One more keyword adds its verdict. -/
theorem cons (h : Gives apply root keyword v b) (hs : GiveAll apply root keywords v b') :
    GiveAll apply root (keyword :: keywords) v (b && b') := by
  refine ⟨List.forall_mem_cons.2 ⟨⟨b, h⟩, hs.each⟩, ?_⟩
  rw [Bool.and_eq_true, List.forall_mem_cons, hs.all]
  -- The first verdict is positive just in case it is the one of the keyword.
  refine and_congr_left fun _ => ⟨?_, fun h' => h.unique h'⟩
  rintro rfl
  exact h

/-- A single keyword has its own verdict. -/
theorem single (h : Gives apply root keyword v b) : GiveAll apply root [keyword] v b := by
  rw [← Bool.and_true b]
  exact cons h nil

/-- Keywords together have one verdict on a value. -/
theorem unique (h : GiveAll apply root keywords v b) (h' : GiveAll apply root keywords v b') :
    b = b' :=
  Bool.eq_iff_iff.2 (h.all.trans h'.all.symm)

/-- The keywords that are left without the first one. -/
theorem of_cons (h : GiveAll apply root (keyword :: keywords) v b)
    (hfirst : Gives apply root keyword v b') :
    ∃ bs, GiveAll apply root keywords v bs ∧ b = (b' && bs) := by
  classical
  -- They have verdicts, so the one of them together is whether all of these are positive.
  have hothers : GiveAll apply root keywords v
      (decide (∀ keyword ∈ keywords, Gives apply root keyword v true)) :=
    ⟨(List.forall_mem_cons.1 h.each).2, decide_eq_true_iff⟩
  exact ⟨_, hothers, h.unique (cons hfirst hothers)⟩

/-- Keywords after others add their verdict. -/
theorem append {keywords' : List (String × Value)} (h : GiveAll apply root keywords v b)
    (h' : GiveAll apply root keywords' v b') :
    GiveAll apply root (keywords ++ keywords') v (b && b') := by
  refine ⟨List.forall_mem_append.2 ⟨h.each, h'.each⟩, ?_⟩
  rw [Bool.and_eq_true, List.forall_mem_append, h.all, h'.all]

/-- The order of the keywords makes no difference. -/
theorem of_mem_iff {keywords' : List (String × Value)} (h : GiveAll apply root keywords v b)
    (hmem : ∀ keyword, keyword ∈ keywords' ↔ keyword ∈ keywords) :
    GiveAll apply root keywords' v b := by
  refine ⟨fun keyword hkeyword => h.each keyword ((hmem keyword).1 hkeyword), ?_⟩
  rw [h.all]
  exact forall_congr' fun keyword => imp_congr_left (hmem keyword).symm

/-- **The schema object** of the keywords has their verdict. -/
theorem judge {fuel : Nat} (h : GiveAll (Json.judge root fuel) root keywords v b) :
    Json.judge root (fuel + 1) (.ofMembers keywords) v = some b := by
  rw [Value.ofMembers, Json.judge, ObjectMembers.toList_ofList]
  refine allHold_eq_some (List.forall_mem_map.2 fun keyword hkeyword => ?_) ?_
  · obtain ⟨b, hb⟩ := h.each keyword hkeyword
    exact ⟨b, hb keywords⟩
  · rw [h.all, List.forall_mem_map]
    -- A verdict beside these keywords is the one beside any, because there is one beside any.
    refine forall₂_congr fun keyword hkeyword => ⟨fun htrue => htrue keywords, fun htrue => ?_⟩
    obtain ⟨b, hb⟩ := h.each keyword hkeyword
    obtain rfl : b = true := Option.some.inj ((hb keywords).symm.trans htrue)
    exact hb

end GiveAll

/-! ### Keywords -/

/-- An annotation holds of every value. -/
theorem gives_annotated {name : String} (h : name ∈ annotations) (argument v : Value) :
    Gives apply root (name, argument) v true := by
  simp only [annotations, List.mem_cons, List.not_mem_nil, or_false] at h
  rcases h with rfl | rfl | rfl | rfl | rfl <;> exact fun keywords => rfl

/-- Whether a value has a type can be told for the names of types. -/
theorem hasType_eq {type : String} (h : type ∈ typeNames) (v : Value) :
    hasType v (.string type) = some (decide (type ∈ v.types)) :=
  if_pos h

/-- The keyword for a type holds of the values of that type. -/
theorem gives_type {type : String} (h : type ∈ typeNames) (v : Value) :
    Gives apply root ("type", .string type) v (decide (type ∈ v.types)) :=
  fun _ => hasType_eq h v

/-- One of two types. -/
theorem gives_types {type type' : String} (h : type ∈ typeNames) (h' : type' ∈ typeNames)
    (v : Value) : Gives apply root ("type", .ofList [.string type, .string type']) v
      (decide (type ∈ v.types) || decide (type' ∈ v.types)) := by
  intro keywords
  change anyHolds [hasType v (.string type), hasType v (.string type')] = _
  rw [hasType_eq h, hasType_eq h']
  refine (anyHolds_eq [_, _]).trans (congrArg some ?_)
  rw [List.any_cons, List.any_cons, List.any_nil, Bool.or_false, id, id]

/-- The members of an object, each by the schema for its name. -/
theorem gives_properties {schemas : List (String × Value)} {object : ObjectMembers}
    {f : String → Value → Bool}
    (hfound : ∀ member ∈ object.toList, ∀ schema, schemas.lookup member.1 = some schema →
      apply schema member.2 = some (f member.1 member.2))
    (hother : ∀ member ∈ object.toList, schemas.lookup member.1 = none → f member.1 member.2) :
    Gives apply root ("properties", .ofMembers schemas) (.object object)
      (object.toList.all fun member => f member.1 member.2) := by
  intro keywords
  change judgeProperties apply (.ofMembers schemas) (.object object) = _
  rw [Value.ofMembers, judgeProperties, ObjectMembers.toList_ofList]
  refine allHold_map fun member hmember => ?_
  -- A member is judged by the schema for its name, if there is one.
  split
  · next schema hlookup => exact hfound member hmember schema hlookup
  · next hlookup => rw [hother member hmember hlookup]

/-- The names that an object must have. -/
theorem judgeRequired_eq (names : List String) (object : ObjectMembers) :
    judgeRequired (.ofList (names.map .string)) (.object object) =
      some (names.all fun name => decide (name ∈ object.toList.map (·.1))) := by
  change allHold ((Values.ofList (names.map .string)).toList.map (hasMemberNamed object)) = _
  rw [Values.toList_ofList, List.map_map]
  exact allHold_map fun name _ => rfl

/-- The object has no members but those that are described. -/
theorem judgeAdditional_false {fuel : Nat} (schemas : List (String × Value))
    (object : ObjectMembers) :
    judgeAdditional (judge root (fuel + 1)) (some (.ofMembers schemas)) (.bool false)
        (.object object) =
      some (object.toList.all fun member => decide (member.1 ∈ schemas.map (·.1))) := by
  change allHold (object.toList.map fun member =>
    if member.1 ∈ (ObjectMembers.ofList schemas).toList.map (·.1) then some true
      else judge root (fuel + 1) (.bool false) member.2) = _
  rw [ObjectMembers.toList_ofList]
  refine allHold_map fun member _ => ?_
  -- A member of another name would be judged by the schema that nothing passes.
  split
  · next h => rw [decide_eq_true h]
  · next h => rw [decide_eq_false h, judge]

/-- The entries of an array are judged by one schema. -/
theorem gives_items {schema : Value} {entries : Values} {f : Value → Bool}
    (h : ∀ entry ∈ entries.toList, apply schema entry = some (f entry)) :
    Gives apply root ("items", schema) (.array entries) (entries.toList.all f) :=
  fun _ => allHold_map h

/-- One of two schemas. -/
theorem gives_anyOf {schema schema' : Value} (h : apply schema v = some b)
    (h' : apply schema' v = some b') :
    Gives apply root ("anyOf", .ofList [schema, schema']) v (b || b') := by
  intro keywords
  change anyHolds [apply schema v, apply schema' v] = _
  rw [h, h']
  refine (anyHolds_eq [b, b']).trans (congrArg some ?_)
  rw [List.any_cons, List.any_cons, List.any_nil, Bool.or_false, id, id]

/-- Exactly one of two schemas. -/
theorem gives_oneOf {schema schema' : Value} (h : apply schema v = some b)
    (h' : apply schema' v = some b') :
    Gives apply root ("oneOf", .ofList [schema, schema']) v (b != b') := by
  intro keywords
  change oneHolds [apply schema v, apply schema' v] = _
  rw [h, h']
  refine (oneHolds_eq [b, b']).trans (congrArg some ?_)
  -- One of two holds if their verdicts differ.
  cases b <;> cases b' <;> rfl

/-! ### Types -/

/-- A number has no other types. -/
theorem types_number {type : String} {significand exponent : Int}
    (h : type ∉ ["number", "integer"]) :
    decide (type ∈ (Value.number significand exponent).types) = false := by
  rw [Value.types]
  -- A whole number has one type more, which is not this one either.
  split
  · exact decide_eq_false h
  · exact decide_eq_false fun hmem => h (List.mem_cons.2 (.inl (List.mem_singleton.1 hmem)))

/-- A number is an integer just in case it is whole. -/
theorem integer_mem_types (significand exponent : Int) :
    decide ("integer" ∈ (Value.number significand exponent).types) =
      isWhole significand exponent := by
  rw [Value.types]
  split
  · next h =>
    rw [h]
    rfl
  · next h =>
    rw [Bool.eq_false_iff.2 h]
    rfl

/-- Only null has the type of null. -/
theorem null_mem_types : "null" ∈ v.types ↔ v = .null := by
  refine ⟨fun h => ?_, ?_⟩
  · have hdecide := decide_eq_true h
    cases v with
    | null => rfl
    | number => exact absurd (hdecide.symm.trans (types_number (by decide))) (by decide)
    | bool | string | array | object => cases hdecide
  · rintro rfl
    exact List.mem_cons_self

/-! ### References -/

/-- The last part of a pointer, which nothing in it ends or escapes. -/
theorem followPointer_name (v : Value) : ∀ (cs token : List Char),
    (∀ c ∈ cs, c ≠ '/' ∧ c ≠ '~' ∧ c ≠ '%') →
    followPointer v token cs = v.member? (String.ofList (token.reverse ++ cs))
  | [], token, _ => by rw [followPointer, List.append_nil]
  | c :: cs, token, h => by
    obtain ⟨hslash, htilde, hpercent⟩ := h c List.mem_cons_self
    rw [followPointer, if_neg hslash, if_neg (not_or.2 ⟨htilde, hpercent⟩),
      followPointer_name v cs (c :: token) fun c hc => h c (List.mem_cons_of_mem _ hc),
      List.reverse_cons, List.append_assoc, List.singleton_append]

/-- **A reference to a definition** leads to it. -/
theorem resolveReference_definition {name : String} {definitions : Value}
    (hname : ∀ c ∈ name.toList, c ≠ '/' ∧ c ≠ '~' ∧ c ≠ '%')
    (hdefinitions : root.member? "$defs" = some definitions) :
    resolveReference root ("#/$defs/" ++ name) = definitions.member? name := by
  have htext : ("#/$defs/" ++ name).toList =
      '#' :: '/' :: '$' :: 'd' :: 'e' :: 'f' :: 's' :: '/' :: name.toList := by
    rw [String.toList_append]
    rfl
  -- The first part of the pointer is `$defs`, the second one the name.
  have hfollow : followPointer root [] ('$' :: 'd' :: 'e' :: 'f' :: 's' :: '/' :: name.toList) =
      root.member? "$defs" >>= fun v => followPointer v [] name.toList := rfl
  rw [resolveReference, htext]
  change followPointer root [] _ = _
  rw [hfollow, hdefinitions]
  change followPointer definitions [] name.toList = _
  rw [followPointer_name definitions name.toList [] hname, List.reverse_nil, List.nil_append,
    String.ofList_toList]

/-- A schema that refers to a definition in it. -/
example :
    let schema : Value := .ofMembers [("$ref", .string "#/$defs/Name"),
      ("$defs", .ofMembers [("Name", .ofMembers [("type", .string "string")])])]
    judge schema 2 schema (.string "users") = some true ∧
      judge schema 2 schema .null = some false := by
  decide

end SchemaDiagram.Json
