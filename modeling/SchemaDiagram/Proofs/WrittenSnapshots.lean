import SchemaDiagram.Proofs.PrintedJson
import SchemaDiagram.Snapshot.Spelling
import SchemaDiagram.Snapshot.Write
import SchemaDiagram.Proofs.Records

/-!
# What is written is a spelling

The text that is written for a value of a well-formed format is one of the spellings of that value
(`Format.spans_write`, `Format.spells_pretty`). In an object that is written for a record, the items
are those of the members that are not left out, in the order of their declaration (`itemsOf`).
-/

namespace SchemaDiagram.Snapshot

open Json

/-! ### Items -/

/-- The items of a written object. -/
def itemsOf (level : Nat) (tail : List Char) : ObjectMembers → List Item
  | .nil => []
  | .cons name v members =>
    ⟨name, v.write level ++ (members.text level false ++ tail),
      members.text level false ++ tail⟩ :: itemsOf level tail members

theorem itemsSpan_text (level : Nat) {tail rest : List Char}
    (htail : skipSpace tail = '\x7d' :: rest) : ∀ (members : ObjectMembers) (first : Bool),
      ItemsSpan first (itemsOf level tail members) (members.text level first ++ tail) rest
  | .nil, _ => htail
  | .cons name v members, first => by
    have hv := v.spans_write level (members.text level false ++ tail)
    -- The item is what the text begins with, and the other items are what it goes on with.
    refine ⟨?_, itemsSpan_text level htail members false⟩
    rw [ObjectMembers.text]
    simp only [List.append_assoc, List.cons_append]
    exact memberSpan_text level name hv.skipSpace

/-- Every item of a written object has a value. -/
theorem spans_of_mem_itemsOf {level : Nat} {tail : List Char} {item : Item} :
    ∀ members : ObjectMembers, item ∈ itemsOf level tail members →
      ∃ value : Value, value.Spans item.before item.after
  | .nil, h => absurd h List.not_mem_nil
  | .cons _ v members, h => by
    rcases List.mem_cons.1 h with rfl | h
    · -- The value is spelled as it was written, whatever stands behind it.
      exact ⟨v, v.spans_write level _⟩
    · exact spans_of_mem_itemsOf members h

/-- **A written object spells a record** if its items do so. -/
theorem record_spans_write (label : Label) {members : Members} {vs : members.Val} (level : Nat)
    (object : ObjectMembers) (rest : List Char)
    (h : ∀ tail, members.SpelledBy vs (itemsOf (level + 1) tail object)) :
    (Format.record label members).Spans vs ((Value.object object).write level ++ rest) rest := by
  obtain ⟨space, hspace, hwritten⟩ := Value.write_object level object
  -- What stands behind the members are blanks and the brace.
  have htail : skipSpace (space ++ '\x7d' :: rest) = '\x7d' :: rest := (hspace _).trans rfl
  rw [hwritten, List.cons_append, List.append_assoc, List.append_assoc, List.singleton_append]
  exact ⟨_, _, rfl, itemsSpan_text (level + 1) htail object true, h _,
    fun item hitem _ => spans_of_mem_itemsOf object hitem⟩

/-- Only members of the record are written. -/
theorem Members.name_of_mem_itemsOf {level : Nat} {tail : List Char} {item : Item} :
    ∀ (members : Members) (vs : members.Val),
      item ∈ itemsOf level tail (members.toJson vs) → item.name ∈ members.names
  | .nil, (), h => absurd h List.not_mem_nil
  | .cons member format members, (v, vs), h => by
    rw [Members.toJson] at h
    split at h
    · -- A member that is left out has no item.
      exact List.mem_cons_of_mem _ (name_of_mem_itemsOf members vs h)
    · rcases List.mem_cons.1 h with rfl | h
      · exact List.mem_cons_self
      · exact List.mem_cons_of_mem _ (name_of_mem_itemsOf members vs h)

theorem Members.filter_itemsOf (level : Nat) (tail : List Char) {name : String}
    {members : Members} (vs : members.Val) (h : name ∉ members.names) :
    (itemsOf level tail (members.toJson vs)).filter (·.name = name) = [] := by
  rw [List.filter_eq_nil_iff]
  intro item hitem hname
  exact h (of_decide_eq_true hname ▸ members.name_of_mem_itemsOf vs hitem)

/-- An item of another name changes nothing. -/
theorem Members.SpelledBy.cons_other {item : Item} {items : List Item} :
    ∀ {members : Members} {vs : members.Val}, members.SpelledBy vs items →
      item.name ∉ members.names → members.SpelledBy vs (item :: items)
  | .nil, (), _, _ => trivial
  | .cons member format members, (v, vs), h, hname => by
    obtain ⟨hne, hrest⟩ := not_or.1 (mt List.mem_cons.2 hname)
    have hfilter : (item :: items).filter (·.name = member.name) =
        items.filter (·.name = member.name) :=
      List.filter_cons_of_neg (by rwa [decide_eq_true_eq])
    refine ⟨?_, cons_other h.2 hrest⟩
    rw [hfilter]
    exact h.1

/-- Only values of optional formats are left out. -/
theorem Format.isLeftOut_iff {format : Format} {v : format.Val} (h : format.isLeftOut v) :
    format.isOptional ∧ format.default? = some v := by
  unfold Format.isLeftOut at h
  split at h
  · -- The format is optional, and the value is none.
    exact ⟨rfl, rfl⟩
  · exact absurd h Bool.false_ne_true

/-! ### Values -/

theorem entrySpan_write (entry : IndexEntry) (level : Nat) (rest : List Char) :
    EntrySpan entry ((entryToJson entry).write level ++ rest) rest := by
  -- Both kinds of entries are an object with one member, which names the kind.
  have hcase : ∀ name make text, (name, make) ∈ entryCases →
      EntrySpan (make text) ((Value.ofMembers [(name, .string text)]).write level ++ rest)
        rest := by
    intro name make text hcase
    obtain ⟨space, hspace, hwritten⟩ :=
      Value.write_object level (.ofList [(name, .string text)])
    have htail : skipSpace (space ++ '\x7d' :: rest) = '\x7d' :: rest := (hspace _).trans rfl
    have hitems := itemsSpan_text (level + 1) htail (.ofList [(name, .string text)]) true
    rw [Value.ofMembers, hwritten, List.cons_append, List.append_assoc, List.append_assoc,
      List.singleton_append]
    exact ⟨name, make, text, _, _, _, hcase, rfl, rfl, hitems.1, textSpan_encodeString text _,
      hitems.2⟩
  cases entry with
  | column name => exact hcase "column" .column name List.mem_cons_self
  | expression text =>
    exact hcase "expression" .expression text (List.mem_cons_of_mem _ List.mem_cons_self)

theorem entriesSpan_text {α : Type} {spans : α → List Char → List Char → Prop}
    {toJson : α → Value} (level : Nat) {tail rest : List Char}
    (htail : skipSpace tail = ']' :: rest) : ∀ (vs : List α) (first : Bool),
      (∀ v ∈ vs, ∀ rest, spans v ((toJson v).write level ++ rest) rest) →
      EntriesSpan spans first vs ((Values.ofList (vs.map toJson)).text level first ++ tail) rest
  | [], _, _ => htail
  | v :: vs, first, hspans => by
    -- The first value is followed by the text of the others.
    have hv := (toJson v).spans_write level
      ((Values.ofList (vs.map toJson)).text level false ++ tail)
    have hvs := fun v hv => hspans v (List.mem_cons_of_mem _ hv)
    refine ⟨_, _, ?_, hspans v List.mem_cons_self _,
      entriesSpan_text level htail vs false hvs⟩
    rw [List.map_cons, Values.ofList, Values.text, List.append_assoc, List.append_assoc,
      List.append_assoc]
    exact separated_newline level hv.skipSpace

/-- **A written array spells a list** if its entries spell those of the list. -/
theorem list_spans_write {inner : Format} (level : Nat) (toJson : inner.Val → Value)
    (vs : List inner.Val) (rest : List Char)
    (h : ∀ v ∈ vs, ∀ rest, inner.Spans v ((toJson v).write (level + 1) ++ rest) rest) :
    (Format.list inner).Spans vs ((Value.ofList (vs.map toJson)).write level ++ rest) rest := by
  obtain ⟨space, hspace, hwritten⟩ := Value.write_array level (.ofList (vs.map toJson))
  have htail : skipSpace (space ++ ']' :: rest) = ']' :: rest := (hspace _).trans rfl
  rw [Value.ofList, hwritten, List.cons_append, List.append_assoc, List.append_assoc,
    List.singleton_append]
  exact ⟨_, rfl, entriesSpan_text (level + 1) htail vs true h⟩

mutual
/-- **A written value** is spelled, at every level of indentation. -/
theorem Format.spans_write (level : Nat) : ∀ (format : Format) (v : format.Val) (rest : List Char),
    format.wellFormed → format.Spans v ((format.toJson v).write level ++ rest) rest
  | .text, (s : String), rest, _ => textSpan_encodeString s rest
  | .flag, (b : Bool), rest, _ => (Value.bool b).spans_write level rest
  | .word, (n : UInt32), rest, _ => by
    -- Whole numbers are written with their digits and nothing else.
    change (Value.ofNat n.toNat).write level ++ rest = Nat.toDigits 10 n.toNat ++ rest
    rw [Value.ofNat, Value.write, encodeNumber, if_pos rfl, List.append_nil]
    exact congrArg (· ++ rest) Nat.toList_repr
  | .kind, (kind : RelationKind), rest, _ => textSpan_encodeString kind.tag rest
  | .entry, (entry : IndexEntry), rest, _ => entrySpan_write entry level rest
  | .optional inner, (v? : Option inner.Val), rest, h => by
    rw [Format.wellFormed, Bool.and_eq_true] at h
    cases v? with
    | none => exact Value.null.spans_write level rest
    | some v => exact Format.spans_write level inner v rest h.2
  | .list inner, (vs : List inner.Val), rest, h =>
    list_spans_write level inner.toJson vs rest fun v _ rest =>
      Format.spans_write (level + 1) inner v rest h
  | .record label members, vs, rest, h =>
    record_spans_write label level (members.toJson vs) rest fun tail =>
      Members.spelledBy_written (level + 1) tail members vs h

/-- **The members of a written record** are spelled by its items. -/
theorem Members.spelledBy_written (level : Nat) (tail : List Char) :
    ∀ (members : Members) (vs : members.Val), members.wellFormed →
      members.SpelledBy vs (itemsOf level tail (members.toJson vs))
  | .nil, (), _ => trivial
  | .cons member format members, (v, vs), h => by
    obtain ⟨hnew, habsent, hformat, hmembers⟩ := Members.wellFormed_cons h
    have hothers := Members.spelledBy_written level tail members vs hmembers
    have hnone := Members.filter_itemsOf level tail vs hnew
    rw [Members.toJson]
    -- The member is left out, or it is the first item.
    by_cases hout : format.isLeftOut v
    · obtain ⟨hopt, hdefault⟩ := Format.isLeftOut_iff hout
      rw [if_pos hout]
      exact ⟨.inr ⟨hnone, habsent hopt, hdefault⟩, hothers⟩
    · rw [if_neg hout, itemsOf]
      have hv := Format.spans_write level format v
        ((members.toJson vs).text level false ++ tail) hformat
      refine ⟨.inl ⟨⟨member.name, _, _⟩, ?_, hv⟩, hothers.cons_other hnew⟩
      -- No other item has its name.
      rw [List.filter_cons, hnone]
      exact if_pos (decide_eq_true rfl)
end

/-- **A written text** spells the value, also with white space after it. -/
theorem Format.spells_pretty {format : Format} (h : format.wellFormed) (v : format.Val)
    {text : String} {space : List Char} (hspace : skipSpace space = [])
    (htext : text.toList = (format.toJson v).pretty.toList ++ space) : format.Spells v text := by
  refine ⟨space, ?_, hspace⟩
  -- The text begins with the value and not with blanks.
  rw [htext, Value.pretty, String.toList_ofList, ((format.toJson v).spans_write 0 space).skipSpace]
  exact format.spans_write 0 v space h

end SchemaDiagram.Snapshot
