import SchemaDiagram.Proofs.Readers

/-!
# Reading records

Records are the difficult case of a reader, since the members may come in any order, with others
among them, and are collected in a draft. `Members.draftOf` is the draft after some names have been
read: the loop takes the items of the object one by one (`readMembers_items`), and what is missing
at the end has its default (`Members.finish_draftOf`).

With records, every well-formed format takes what is spelled (`Format.takes`), and a text that
spells a value is parsed as that value (`Format.parse_of_spells`).
-/

namespace SchemaDiagram.Snapshot

open Json

variable {first : Bool} {cs rest : List Char}

/-! ### Well-formed formats -/

/-- The format is one of optional values. -/
def Format.isOptional : Format → Bool
  | .optional _ => true
  | _ => false

mutual
/-- **Well-formed formats:** no two members of a record have the same name, optional members may
be absent, and no optional value has optional values, which would all be written as `null`. -/
def Format.wellFormed : Format → Bool
  | .optional inner => !inner.isOptional && inner.wellFormed
  | .list inner => inner.wellFormed
  | .record _ members => members.wellFormed
  | _ => true

/-- Well-formed members. -/
def Members.wellFormed : Members → Bool
  | .nil => true
  | .cons member format rest =>
    decide (member.name ∉ rest.names) && (!format.isOptional || member.mayBeAbsent) &&
      format.wellFormed && rest.wellFormed
end

theorem Members.wellFormed_cons {member : Member} {format : Format} {rest : Members}
    (h : (Members.cons member format rest).wellFormed) :
    member.name ∉ rest.names ∧ (format.isOptional → member.mayBeAbsent) ∧ format.wellFormed ∧
      rest.wellFormed := by
  rw [Members.wellFormed, Bool.and_eq_true, Bool.and_eq_true, Bool.and_eq_true,
    decide_eq_true_iff] at h
  obtain ⟨⟨⟨hnew, habsent⟩, hformat⟩, hrest⟩ := h
  refine ⟨hnew, fun hopt => ?_, hformat, hrest⟩
  rwa [hopt, Bool.not_true, Bool.false_or] at habsent

/-! ### Items -/

/-- What follows the items that have been read does not go on with the last of them. -/
theorem numberEnds_items {items : List Item} (h : ItemsSpan false items cs rest) :
    NumberEnds cs := by
  refine numberEnds_of_skipSpace ?_
  -- An object ends with a brace, and after a member that is not the last one stands a comma.
  cases items with
  | nil =>
    rw [show skipSpace cs = '\x7d' :: rest from h]
    exact NumberEnds.cons (by decide) rest
  | cons item items =>
    obtain ⟨⟨_, _, _, ⟨_, hcomma, -⟩, -⟩, -⟩ := h
    rw [hcomma]
    exact NumberEnds.cons (by decide) _

theorem ItemsSpan.length_lt {items : List Item} {first : Bool} {cs rest : List Char}
    (h : ItemsSpan first items cs rest)
    (hitems : ∀ item ∈ items, item.after.length < item.before.length) :
    rest.length < cs.length := by
  induction items generalizing first cs with
  | nil => exact length_lt_of_skipSpace h
  | cons item items ih =>
    obtain ⟨hitem, h⟩ := h
    have hrest := ih h fun item hitem => hitems item (List.mem_cons_of_mem _ hitem)
    exact Nat.lt_trans (Nat.lt_trans hrest (hitems item List.mem_cons_self)) hitem.length_lt

/-- **What an item says about a member:** it is the only one of its name, and spells the value. -/
theorem Members.SpelledBy.head {member : Member} {format : Format} {members : Members}
    {v : format.Val} {vs : members.Val} {items : List Item}
    (h : (Members.cons member format members).SpelledBy (v, vs) items) {item : Item}
    (hitem : item ∈ items) (hname : item.name = member.name) :
    items.filter (·.name = member.name) = [item] ∧ format.Spans v item.before item.after := by
  have hmem : item ∈ items.filter (·.name = member.name) :=
    List.mem_filter.2 ⟨hitem, decide_eq_true hname⟩
  rcases h.1 with ⟨item', honly, hv⟩ | ⟨hnone, -⟩
  · rw [honly, List.mem_singleton] at hmem
    subst hmem
    exact ⟨honly, hv⟩
  · rw [hnone] at hmem
    exact absurd hmem List.not_mem_nil

/-- A name of the record occurs once at most. -/
theorem Members.SpelledBy.once {name : String} : ∀ {members : Members} {vs : members.Val}
    {items : List Item}, members.SpelledBy vs items → name ∈ members.names →
    (items.filter (·.name = name)).length ≤ 1
  | .nil, _, _, _, hname => absurd hname List.not_mem_nil
  | .cons member format members, (v, vs), items, h, hname => by
    -- The name is that of the first member or of one of the others.
    rcases List.mem_cons.1 hname with rfl | hname
    · rcases h.1 with ⟨item, honly, -⟩ | ⟨hnone, -⟩
      · rw [honly]
        exact Nat.le_refl 1
      · rw [hnone]
        exact Nat.zero_le 1
    · exact once h.2 hname

/-! ### Where values of a format begin and end -/

theorem proper_textSpan : Proper (TextSpan false) := by
  rintro s cs rest ⟨inner, rfl, h⟩
  exact ⟨'"', inner, rfl, Nat.le_of_lt h.length_lt, by decide, by decide⟩

theorem proper_value (v : Value) (h : v.Spans cs rest) :
    ∃ c after, cs = c :: after ∧ rest.length ≤ after.length ∧ isSpace c = false ∧ c ≠ ']' := by
  have hlength := Value.Spans.length_lt v h
  obtain ⟨c, after, rfl, hc⟩ := h.begins
  obtain ⟨hspace, hbracket, -⟩ := Value.mayBegin_other hc
  exact ⟨c, after, rfl, Nat.le_of_lt_succ hlength, hspace, hbracket⟩

/-- A text in brackets that goes on behind them. -/
theorem proper_bracketed {c : Char} {inner : List Char} (h : rest.length < inner.length)
    (hc : isSpace c = false ∧ c ≠ ']') :
    ∃ c' after, c :: inner = c' :: after ∧ rest.length ≤ after.length ∧ isSpace c' = false ∧
      c' ≠ ']' :=
  ⟨c, inner, rfl, Nat.le_of_lt h, hc⟩

mutual
/-- **Spellings are proper,** those of every format. -/
theorem Format.proper : ∀ format : Format, Proper format.Spans
  | .text => proper_textSpan
  | .flag => fun b _ _ h => proper_value (.bool b) h
  | .word => by
    intro (n : UInt32) cs rest h
    obtain ⟨c, digits, hdigits, hc⟩ := toDigits_begins n.toNat
    obtain ⟨hspace, hbracket, -⟩ := isDigit_begins hc
    rw [show cs = Nat.toDigits 10 n.toNat ++ rest from h, hdigits, List.cons_append]
    refine ⟨c, _, rfl, ?_, hspace, hbracket⟩
    -- The first digit is all that is looked at; the number may end behind it.
    rw [List.length_append]
    exact Nat.le_add_left _ _
  | .kind => fun kind cs rest h => proper_textSpan (RelationKind.tag kind) cs rest h
  | .entry => by
    rintro entry cs rest ⟨name, make, text, inner, before, after, -, -, rfl, hname, htext, hclose⟩
    have hlength := Nat.lt_trans htext.length_lt hname.length_lt
    exact proper_bracketed (Nat.lt_trans (length_lt_of_skipSpace hclose) hlength) (by decide)
  | .optional inner => by
    intro (v? : Option inner.Val) cs rest h
    cases v? with
    | none => exact proper_value .null h
    | some v => exact Format.proper inner v cs rest h
  | .list inner => by
    rintro vs cs rest ⟨entries, rfl, h⟩
    exact proper_bracketed (h.length_lt (Format.proper inner)) (by decide)
  | .record label members => by
    rintro vs cs rest ⟨inner, items, rfl, hitems, hspelled, hothers⟩
    refine proper_bracketed (hitems.length_lt fun item hitem => ?_) (by decide)
    -- An item belongs to a member, whose format shrinks the text, or is ignored as a whole value.
    by_cases hname : item.name ∈ members.names
    · exact Members.SpelledBy.shrinks members hspelled item hitem hname
    · obtain ⟨value, hvalue⟩ := hothers item hitem hname
      exact Value.Spans.length_lt value hvalue

/-- The items of a record take up part of the text. -/
theorem Members.SpelledBy.shrinks : ∀ (members : Members) {vs : members.Val} {items : List Item},
    members.SpelledBy vs items → ∀ item ∈ items, item.name ∈ members.names →
    item.after.length < item.before.length
  | .nil, _, _, _, _, _, hname => absurd hname List.not_mem_nil
  | .cons member format members, (v, vs), items, h, item, hitem, hname => by
    rcases List.mem_cons.1 hname with hname | hname
    · exact (Format.proper format).length_lt (h.head hitem hname).2
    · exact Members.SpelledBy.shrinks members h.2 item hitem hname
end

/-- Only values of optional formats begin like `null`. -/
theorem Format.not_spans_null {format : Format} (h : format.isOptional = false) (v : format.Val)
    (cs rest : List Char) : ¬format.Spans v ('n' :: cs) rest := by
  intro hspans
  cases format with
  | text =>
    obtain ⟨inner, heq, -⟩ := hspans
    exact absurd (List.cons.inj heq).1 (by decide)
  | flag =>
    cases (v : Bool) with
    | false => exact absurd (List.cons.inj hspans).1 (by decide)
    | true => exact absurd (List.cons.inj hspans).1 (by decide)
  | word =>
    -- A number begins with a digit.
    obtain ⟨c, digits, hdigits, hc⟩ := toDigits_begins (UInt32.toNat v)
    have heq : 'n' :: cs = c :: (digits ++ rest) := by
      rw [← List.cons_append, ← hdigits]
      exact hspans
    rw [← (List.cons.inj heq).1] at hc
    exact absurd hc (by decide)
  | kind =>
    obtain ⟨inner, heq, -⟩ := hspans
    exact absurd (List.cons.inj heq).1 (by decide)
  | entry =>
    obtain ⟨_, _, _, _, _, _, -, -, heq, -⟩ := hspans
    exact absurd (List.cons.inj heq).1 (by decide)
  | optional inner => exact Bool.noConfusion h
  | list inner =>
    obtain ⟨_, heq, -⟩ := hspans
    exact absurd (List.cons.inj heq).1 (by decide)
  | record label members =>
    obtain ⟨_, _, heq, -⟩ := hspans
    exact absurd (List.cons.inj heq).1 (by decide)

/-! ### Drafts -/

/-- **The draft after some names have been read,** in whatever order. -/
def Members.draftOf : (members : Members) → members.Val → List String → members.Draft
  | .nil, (), _ => ()
  | .cons member _ members, (v, vs), names =>
    (if member.name ∈ names then some v else none, members.draftOf vs names)

theorem Members.draftOf_nil : ∀ (members : Members) (vs : members.Val),
    members.draftOf vs [] = members.emptyDraft
  | .nil, () => rfl
  | .cons _ _ members, (_, vs) => by
    rw [draftOf, if_neg List.not_mem_nil, draftOf_nil members vs]
    rfl

theorem ite_mem_append_other {α : Type} {a b : α} {name name' : String} {names : List String}
    (h : name ≠ name') :
    (if name' ∈ names ++ [name] then a else b) = if name' ∈ names then a else b := by
  have hmem : name' ∈ names ++ [name] ↔ name' ∈ names := by
    rw [List.mem_append, List.mem_singleton]
    exact or_iff_left fun heq => h heq.symm
  simp only [hmem]

/-- Other names make no difference. -/
theorem Members.draftOf_other {name : String} : ∀ (members : Members) (vs : members.Val)
    (names : List String), name ∉ members.names →
    members.draftOf vs (names ++ [name]) = members.draftOf vs names
  | .nil, (), _, _ => rfl
  | .cons member _ members, (v, vs), names, h => by
    obtain ⟨hne, hrest⟩ := not_or.1 (mt List.mem_cons.2 h)
    rw [draftOf, draftOf, draftOf_other members vs names hrest, ite_mem_append_other hne]

/-- A draft is completed member by member, with the defaults of those that may be absent. -/
theorem Members.finish_cons {member : Member} {format : Format} {members : Members}
    {v? : Option format.Val} {draft : members.Draft} {v : format.Val} {vs : members.Val}
    (h : v?.or (if member.mayBeAbsent then format.default? else none) = some v)
    (hrest : members.finish draft = .ok vs) :
    (Members.cons member format members).finish (v?, draft) = .ok (v, vs) := by
  cases v? with
  | none =>
    rw [Option.none_or] at h
    rw [Members.finish, h, hrest]
    rfl
  | some v' =>
    obtain rfl : v' = v := Option.some.inj h
    rw [Members.finish, hrest]
    rfl

/-- **After all items have been read,** the draft is completed to the record. -/
theorem Members.finish_draftOf : ∀ {members : Members} {vs : members.Val} {items : List Item},
    members.SpelledBy vs items → members.finish (members.draftOf vs (items.map (·.name))) = .ok vs
  | .nil, (), _, _ => rfl
  | .cons member format members, (v, vs), items, h => by
    refine Members.finish_cons ?_ (finish_draftOf h.2)
    rcases h.1 with ⟨item, honly, -⟩ | ⟨hnone, habsent, hdefault⟩
    · -- The member stands in the text: it is in the draft.
      have hitem : item ∈ items.filter (·.name = member.name) := honly ▸ List.mem_cons_self
      obtain ⟨hmem, hname⟩ := List.mem_filter.1 hitem
      rw [if_pos (List.mem_map.2 ⟨item, hmem, of_decide_eq_true hname⟩), Option.some_or]
    · -- It is left out: no name was read for it, and its default takes its place.
      have hnot : member.name ∉ items.map (·.name) := by
        intro hmem
        obtain ⟨item, hitem, hname⟩ := List.mem_map.1 hmem
        exact absurd (decide_eq_true hname) (List.filter_eq_nil_iff.1 hnone item hitem)
      rw [if_neg hnot, Option.none_or, if_pos habsent, hdefault]

/-! ### Reading members -/

/-- Every member is taken by its own format. -/
def Members.Taken : Members → Prop
  | .nil => True
  | .cons _ format members => Takes format.read format.Spans ∧ members.Taken

/-- A record has no reader for the names that are none of its members. -/
theorem Members.readMember_eq_none {name : String} : ∀ (members : Members)
    (draft : members.Draft), members.readMember name draft = none ↔ name ∉ members.names
  | .nil, () => iff_of_true rfl List.not_mem_nil
  | .cons member _ members, (v?, draft) => by
    rw [readMember, names, List.mem_cons, not_or]
    by_cases hname : name = member.name
    · rw [if_pos hname]
      exact iff_of_false (Option.some_ne_none _) fun h => h.1 hname
    · rw [if_neg hname, and_iff_right hname]
      exact Option.map_eq_none_iff.trans (readMember_eq_none members draft)

theorem map_ok {α β : Type} {reader : Reader α} {put : α → β} {a : α}
    (h : reader cs = .ok (a, rest)) :
    (do return put (← reader) : Reader β) cs = .ok (put a, rest) := by
  rw [bind_ok h]
  rfl

/-- **A member is read into the draft** by its format after the colon, whichever others have been
read before it. -/
theorem Members.readMember_item {item : Item} {items : List Item} {start colon : List Char}
    (hitem : item ∈ items) (hcolon : skipSpace colon = ':' :: start)
    (hstart : skipSpace start = item.before) (hends : NumberEnds item.after) :
    ∀ (members : Members) (vs : members.Val) (names : List String), members.wellFormed →
      members.Taken → members.SpelledBy vs items → item.name ∈ members.names →
      item.name ∉ names → ∃ read,
        members.readMember item.name (members.draftOf vs names) = some read ∧
        read colon = .ok (members.draftOf vs (names ++ [item.name]), item.after)
  | .nil, _, _, _, _, _, hname, _ => absurd hname List.not_mem_nil
  | .cons member format members, (v, vs), names, hwf, ⟨htakes, htaken⟩, hspelled, hname, hnew => by
    obtain ⟨hunique, -, -, hwf⟩ := Members.wellFormed_cons hwf
    rw [draftOf, draftOf]
    -- The item is that of the first member or belongs to one of those behind it.
    by_cases hhead : item.name = member.name
    · have hvalue := htakes v start _ item.after hstart (hspelled.head hitem hhead).2 hends
      have hmem : member.name ∈ names ++ [item.name] := by
        rw [hhead]
        exact List.mem_append_right _ List.mem_cons_self
      rw [if_neg (hhead ▸ hnew), if_pos hmem, draftOf_other members vs names (hhead ▸ hunique),
        readMember, if_pos hhead]
      -- The colon is read, and then the value.
      refine ⟨_, rfl, ?_⟩
      change (readColon >>= fun _ => _) colon = _
      rw [bind_ok (readColon_colon hcolon), bind_ok hvalue]
      rfl
    · have hname : item.name ∈ members.names := (List.mem_cons.1 hname).resolve_left hhead
      obtain ⟨read, hread, hrun⟩ :=
        readMember_item hitem hcolon hstart hends members vs names hwf htaken hspelled.2 hname hnew
      rw [readMember, if_neg hhead, hread, ite_mem_append_other hhead]
      exact ⟨_, rfl, map_ok hrun⟩

theorem hasMember_end (h : skipSpace cs = '\x7d' :: rest) :
    hasMember first cs = .ok (false, '\x7d' :: rest) := by
  rw [hasMember, h]
  rfl

theorem closeObject_end (h : skipSpace cs = '\x7d' :: rest) :
    closeObject cs = .ok ((), rest) := by
  rw [closeObject, h]
  rfl

/-- A member follows where one is spelled. -/
theorem hasMember_separated (h : Separated first cs ('"' :: rest)) :
    hasMember first cs = .ok (true, '"' :: rest) := by
  cases first with
  | true =>
    rw [hasMember, show skipSpace cs = '"' :: rest from h]
    rfl
  | false =>
    obtain ⟨after, hcomma, hafter⟩ := h
    rw [hasMember, hcomma]
    -- Behind a comma only the quote of a further name is accepted.
    split
    · next heq => exact absurd heq (List.cons_ne_nil _ _)
    · next heq => exact absurd (List.cons.inj heq).1 (by decide)
    · next heq =>
      obtain ⟨rfl, rfl⟩ := List.cons.inj heq
      rw [if_neg Bool.false_ne_true, if_pos rfl, hafter]
      rfl

section Loop

variable {δ : Type} {known : String → δ → Option (Reader δ)} {draft draft' : δ} {name : String}
  {key colon start after : List Char}

/-- One round of the loop up to the colon of a member. -/
theorem readMembers_name (fuel : Nat) (hkey : Separated first cs key)
    (hname : TextSpan false name key colon) :
    readMembers known (fuel + 1) first draft cs = (match known name draft with
      | some read => do
        let draft ← read
        readMembers known fuel false draft
      | none => do
        readColon
        readIgnored
        readMembers known fuel false draft : Reader δ) colon := by
  obtain ⟨inner, rfl, hstring⟩ := hname
  have hquote : skipSpace ('"' :: inner) = '"' :: inner := skipSpace_cons (by decide)
  rw [readMembers, bind_ok (hasMember_separated hkey), if_pos rfl]
  refine (bind_ok (readText_span hquote ⟨inner, rfl, hstring⟩)).trans ?_
  -- Whether the name is known decides which of the two branches is taken.
  cases known name draft <;> rfl

theorem readMembers_known {read : Reader δ} (fuel : Nat) (hkey : Separated first cs key)
    (hname : TextSpan false name key colon) (hknown : known name draft = some read)
    (hread : read colon = .ok (draft', after)) :
    readMembers known (fuel + 1) first draft cs = readMembers known fuel false draft' after := by
  rw [readMembers_name fuel hkey hname, hknown]
  exact bind_ok hread

theorem readMembers_other (fuel : Nat) (hkey : Separated first cs key)
    (hname : TextSpan false name key colon) (hknown : known name draft = none)
    (hcolon : skipSpace colon = ':' :: start) (hskip : skipValue start = .ok after) :
    readMembers known (fuel + 1) first draft cs = readMembers known fuel false draft after := by
  have hignored : readIgnored start = .ok ((), after) := by
    rw [readIgnored, hskip]
    rfl
  rw [readMembers_name fuel hkey hname, hknown]
  change (readColon >>= fun _ => _) colon = _
  rw [bind_ok (readColon_colon hcolon), bind_ok hignored]

end Loop

/-- **The items of an object** are read one after the other into the draft of the record. The
induction is on the items that are still to come; those before them are `done`. -/
theorem readMembers_items {members : Members} {vs : members.Val} {items : List Item}
    (hwf : members.wellFormed) (htaken : members.Taken) (hspelled : members.SpelledBy vs items)
    (hothers : ∀ item ∈ items, item.name ∉ members.names →
      ∃ value : Value, value.Spans item.before item.after) :
    ∀ (later done : List Item) (fuel : Nat) (first : Bool) (cs : List Char),
      items = done ++ later → ItemsSpan first later cs rest → cs.length < fuel →
      readMembers members.readMember fuel first (members.draftOf vs (done.map (·.name))) cs =
        .ok (members.draftOf vs (items.map (·.name)), '\x7d' :: rest) := by
  intro later
  induction later with
  | nil =>
    intro done fuel first cs hitems h hfuel
    obtain ⟨fuel, rfl⟩ := Nat.exists_eq_add_one_of_ne_zero (Nat.ne_zero_of_lt hfuel)
    obtain rfl : items = done := hitems.trans (List.append_nil done)
    have hend : hasMember first cs = .ok (false, '\x7d' :: rest) := hasMember_end h
    -- No items are left: the loop meets the brace and stops with the draft it has.
    exact bind_ok hend
  | cons item later ih =>
    intro done fuel first cs hitems ⟨hmember, h⟩ hfuel
    obtain ⟨fuel, rfl⟩ := Nat.exists_eq_add_one_of_ne_zero (Nat.ne_zero_of_lt hfuel)
    have hitem : item ∈ items := hitems ▸ List.mem_append_right _ List.mem_cons_self
    have hends := numberEnds_items h
    have hshorter := hmember.length_lt
    obtain ⟨key, colon, start, hkey, hname, hcolon, hstart⟩ := hmember
    have hdone : (done ++ [item]).map (·.name) = done.map (·.name) ++ [item.name] :=
      List.map_append
    have hsplit : items = done ++ [item] ++ later := by
      rw [hitems, List.append_assoc, List.singleton_append]
    by_cases hrecord : item.name ∈ members.names
    · -- The name has not been read before, since it occurs only once.
      have hnew : item.name ∉ done.map (·.name) := by
        intro hmem
        obtain ⟨item', hitem', hsame⟩ := List.mem_map.1 hmem
        have hbefore : 0 < (done.filter (·.name = item.name)).length :=
          List.length_pos_of_mem (List.mem_filter.2 ⟨hitem', decide_eq_true hsame⟩)
        have hhere : 0 < ((item :: later).filter (·.name = item.name)).length :=
          List.length_pos_of_mem (List.mem_filter.2 ⟨List.mem_cons_self, decide_eq_true rfl⟩)
        have honce := hspelled.once hrecord
        rw [hitems, List.filter_append, List.length_append] at honce
        omega
      obtain ⟨read, hknown, hread⟩ := Members.readMember_item hitem hcolon hstart hends members vs
        (done.map (·.name)) hwf htaken hspelled hrecord hnew
      have hlength := Members.SpelledBy.shrinks members hspelled item hitem hrecord
      rw [readMembers_known fuel hkey hname hknown hread, ← hdone]
      exact ih (done ++ [item]) fuel false item.after hsplit h (by omega)
    · -- A foreign item is skipped, and the draft stays as it is.
      obtain ⟨value, hvalue⟩ := hothers item hitem hrecord
      have hlength := Value.Spans.length_lt value hvalue
      have hskip := hvalue.skipValue hstart hends
      rw [readMembers_other fuel hkey hname ((members.readMember_eq_none _).2 hrecord) hcolon hskip,
        ← members.draftOf_other vs (done.map (·.name)) hrecord, ← hdone]
      exact ih (done ++ [item]) fuel false item.after hsplit h (by omega)

/-! ### All formats -/

/-- The reader of a record, as a reader of the tuples of its members. -/
def Members.readRecord (label : Label) (members : Members) : Reader members.Val := fun cs =>
  match skipSpace cs with
  | '[' :: cs => (do
      let value ← members.readInOrder (label.withSize members.length) 0
      closeList
      return value : Reader members.Val) cs
  | '\x7b' :: cs => (do
      let draft ← readMembers members.readMember (cs.length + 1) true members.emptyDraft
      let value ← members.finish draft
      closeObject
      return value : Reader members.Val) cs
  | cs => refuse ("struct " ++ label.name) cs

theorem Format.read_record (label : Label) (members : Members) :
    (Format.record label members).read = members.readRecord label := by
  rw [Format.read]
  rfl

/-- **Records** whose members are taken by their formats. -/
theorem takes_record (label : Label) {members : Members} (hwf : members.wellFormed)
    (htaken : members.Taken) :
    Takes (Format.record label members).read (Format.record label members).Spans := by
  rintro (vs : members.Val) start cs rest hstart ⟨inner, items, rfl, hitems, hspelled, hothers⟩ -
  -- The loop starts with the empty draft, which is the draft of no names.
  have hmembers := readMembers_items hwf htaken hspelled hothers items [] _ true inner rfl hitems
    (Nat.lt_add_one _)
  have hclose : closeObject ('\x7d' :: rest) = .ok ((), rest) := closeObject_end rfl
  rw [List.map_nil, members.draftOf_nil] at hmembers
  rw [Format.read_record]
  change members.readRecord label start = .ok (vs, rest)
  rw [Members.readRecord, hstart]
  -- The draft is completed before the brace is read.
  refine (bind_ok hmembers).trans
    ((bind_ok (lift_ok (Members.finish_draftOf hspelled) _)).trans ?_)
  rw [bind_ok hclose]
  rfl

mutual
/-- **Every well-formed format** takes what is spelled. -/
theorem Format.takes : ∀ format : Format, format.wellFormed → Takes format.read format.Spans
  | .text, _ => takes_text
  | .flag, _ => takes_flag
  | .word, _ => takes_word
  | .kind, _ => takes_kind
  | .entry, _ => takes_entry
  | .optional inner, h => by
    rw [Format.wellFormed, Bool.and_eq_true, Bool.not_eq_true'] at h
    have hspans : (Format.optional inner).Spans =
        fun v? => v?.elim Value.null.Spans inner.Spans := by
      funext (v? : Option inner.Val)
      cases v? <;> rfl
    rw [hspans]
    exact takes_optional (Format.takes inner h.2) inner.proper (Format.not_spans_null h.1)
  | .list inner, h => takes_list (Format.takes inner h) inner.proper
  | .record label members, h => takes_record label h (Members.taken members h)

/-- So do all its members. -/
theorem Members.taken : ∀ members : Members, members.wellFormed → members.Taken
  | .nil, _ => trivial
  | .cons _ format members, h =>
    have hparts := Members.wellFormed_cons h
    ⟨Format.takes format hparts.2.2.1, Members.taken members hparts.2.2.2⟩
end

/-- **A text that spells a value** is parsed as that value. -/
theorem Format.parse_of_spells {format : Format} (hwf : format.wellFormed) {v : format.Val}
    {text : String} (h : format.Spells v text) : format.parse text = .ok v := by
  obtain ⟨rest, hspans, hrest⟩ := h
  -- A number at the very end of the text may end there, since only blanks follow.
  have hends : NumberEnds rest := by
    refine numberEnds_of_skipSpace ?_
    rw [hrest]
    rintro c ⟨⟩
  have hread : format.read.run text.toList = .ok (v, rest) :=
    format.takes hwf v _ _ rest rfl hspans hends
  rw [Format.parse, hread]
  change (if (skipSpace rest).isEmpty = true then Except.ok v else _) = _
  rw [hrest]
  rfl

end SchemaDiagram.Snapshot
