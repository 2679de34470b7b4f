import SchemaDiagram.Proofs.Names
import SchemaDiagram.Proofs.Records
import SchemaDiagram.Snapshot.Admission

/-!
# Only admitted values are read

If a reader succeeds at the spelling of a JSON value, then the format admits that value, and the
reader stops where the spelling ends (`Format.reads_admitted`). The value is taken apart as the
reader proceeds: its first character says of which kind it is, and what follows is then determined.

Nothing is assumed about the text but that it spells a value. In particular its strings may have
halves of surrogate pairs in them, which are refused only where a string is read.
-/

namespace SchemaDiagram.Snapshot

open Json

variable {first : Bool} {c : Char} {start cs rest rest' : List Char} {v : Value}

/-- **Reading only what is admitted:** where the reader succeeds at the spelling of a value in
which all records are objects, the value is admitted and has been read to its end. -/
def ReadsAdmitted {α : Type} (reader : Reader α) (asObjects admits : Value → Bool) : Prop :=
  ∀ (value : Value) (start cs rest rest' : List Char) (a : α), skipSpace start = cs →
    value.Spans cs rest → NumberEnds rest → asObjects value → reader start = .ok (a, rest') →
    rest' = rest ∧ admits value

/-- A sequence of two readers has read what the first did, and the second has gone on from there. -/
theorem bind_inv {α β : Type} {reader : Reader α} {next : α → Reader β} {b : β}
    (h : (reader >>= next) cs = .ok (b, rest)) :
    ∃ a middle, reader cs = .ok (a, middle) ∧ next a middle = .ok (b, rest) := by
  obtain ⟨⟨a, middle⟩, hread, hnext⟩ := bind_eq_ok.1 h
  exact ⟨a, middle, hread, hnext⟩

/-- A refusal is an error, whatever stands at the place. -/
theorem refuse_ne_ok {α : Type} {expected : String} {a : α × List Char} :
    refuse expected cs ≠ .ok a := by
  intro h
  obtain ⟨found, -, h⟩ := bind_eq_ok.1 h
  exact throw_ne_ok h

/-! ### Kinds of values by their first character -/

/-- The kind of the values that begin with this character. -/
def KindAt (v : Value) : Char → Prop
  | 'n' => v = .null
  | 't' => v = .bool true
  | 'f' => v = .bool false
  | '"' => ∃ text, v = .string text
  | '[' => ∃ entries, v = .array entries
  | '\x7b' => ∃ object, v = .object object
  | _ => ∃ significand exponent, v = .number significand exponent

/-- The first character of a value says of which kind it is. -/
theorem kindAt_of_mayBegin (h : v.mayBegin c) : KindAt v c := by
  -- One kind begins with one mark; only numbers have more than one first character.
  have hmark : ∀ c' : Char, KindAt v c' → decide (c = c') = true → KindAt v c := fun c' hkind heq =>
    of_decide_eq_true heq ▸ hkind
  cases v with
  | null => exact hmark 'n' rfl h
  | bool b =>
    cases b with
    | true => exact hmark 't' rfl h
    | false => exact hmark 'f' rfl h
  | number significand exponent =>
    rw [Value.mayBegin, Bool.or_eq_true] at h
    rcases h with h | h
    · exact hmark '-' ⟨significand, exponent, rfl⟩ h
    · -- None of the other characters is a digit.
      unfold KindAt
      split
      case h_7 => exact ⟨significand, exponent, rfl⟩
      all_goals exact absurd h (by decide)
  | string text => exact hmark '"' ⟨text, rfl⟩ h
  | array entries => exact hmark '[' ⟨entries, rfl⟩ h
  | object members => exact hmark '\x7b' ⟨members, rfl⟩ h

/-- A spelling begins with a character of its value, so its first character says the kind. -/
theorem kindAt_of_spans (h : v.Spans (c :: cs) rest) : KindAt v c := by
  obtain ⟨c', after, heq, hc⟩ := h.begins
  exact (List.cons.inj heq).1 ▸ kindAt_of_mayBegin hc

/-! ### Leaves -/

/-- What is read of a string is what it spells. -/
theorem eq_of_scanString {s text : String} {inner : List Char}
    (h : StringSpan true s.toList inner rest) (hok : scanString [] inner = .ok (text, rest')) :
    text = s ∧ rest' = rest := by
  -- The string is scanned to its end or refused for half of a surrogate pair.
  rcases h.scanString [] with hscan | ⟨-, e, hscan⟩
  · rw [hscan] at hok
    obtain ⟨rfl, rfl⟩ := Prod.mk.inj (Except.ok.inj hok)
    rw [List.reverse_nil, List.nil_append, String.ofList_toList]
    exact ⟨rfl, rfl⟩
  · rw [hscan] at hok
    cases hok

/-- A text that is read is the one that is spelled. -/
theorem eq_of_readText {s text : String} (hstart : skipSpace start = cs)
    (h : TextSpan true s cs rest) (hok : readText start = .ok (text, rest')) :
    text = s ∧ rest' = rest := by
  obtain ⟨inner, rfl, hstring⟩ := h
  rw [readText, hstart] at hok
  exact eq_of_scanString hstring hok

/-- Only a string is read as a text. -/
theorem eq_string_of_readText {text : String} (hstart : skipSpace start = cs) (hv : v.Spans cs rest)
    (hok : readText start = .ok (text, rest')) : v = .string text ∧ rest' = rest := by
  have hread := hok
  rw [readText, hstart] at hread
  split at hread
  · -- A quote: the value is a string.
    obtain ⟨s, rfl⟩ := kindAt_of_spans hv
    obtain ⟨rfl, hrest⟩ := eq_of_readText hstart hv hok
    exact ⟨rfl, hrest⟩
  · -- Anything else is refused.
    exact absurd hread refuse_ne_ok

/-- Texts are read from strings only. -/
theorem readsAdmitted_text : ReadsAdmitted readText Format.text.asObjects Format.text.admits := by
  intro v start cs rest rest' text hstart hv _ _ hok
  obtain ⟨rfl, hrest⟩ := eq_string_of_readText hstart hv hok
  exact ⟨hrest, rfl⟩

/-- Flags are read from truth values only. -/
theorem readsAdmitted_flag : ReadsAdmitted readFlag Format.flag.asObjects Format.flag.admits := by
  intro v start cs rest rest' b hstart hv hends _ hok
  -- A value that is read is one of the two, and each of them is read to its end.
  have hvalue : ∀ b', v = .bool b' → rest' = rest ∧ Format.flag.admits v := by
    rintro b' rfl
    rw [takes_flag b' start cs rest hstart hv hends] at hok
    exact ⟨(Prod.mk.inj (Except.ok.inj hok)).2.symm, rfl⟩
  have hread := hok
  rw [readFlag, hstart] at hread
  split at hread
  · exact hvalue true (kindAt_of_spans hv)
  · exact hvalue false (kindAt_of_spans hv)
  · exact absurd hread refuse_ne_ok

/-- Kinds are read from the names that they are written under. -/
theorem readsAdmitted_kind : ReadsAdmitted readKind Format.kind.asObjects Format.kind.admits := by
  intro v start cs rest rest' kind hstart hv _ _ hok
  obtain ⟨tag, middle, htext, hok⟩ := bind_inv hok
  obtain ⟨rfl, rfl⟩ := eq_string_of_readText hstart hv htext
  -- The text is looked up among the names of the kinds.
  cases htag : RelationKind.ofTag? tag with
  | none =>
    rw [htag] at hok
    cases hok
  | some kind' =>
    rw [htag] at hok
    obtain ⟨-, rfl⟩ := Prod.mk.inj (Except.ok.inj hok)
    rw [RelationKind.ofTag?] at htag
    have hname : kind'.tag = tag := by simpa using List.find?_some htag
    have hkind := List.mem_of_find?_eq_some htag
    exact ⟨rfl, List.any_eq_true.2 ⟨kind', hkind, decide_eq_true hname.symm⟩⟩

/-- The number of a literal is scanned after its sign. -/
theorem readWord_literal (l : Literal) (hstart : skipSpace start = l.text ++ rest) :
    readWord start = readWord.number (scanNumber l.negative
      (l.whole ++ (l.fractionText ++ (l.exponentText ++ rest)))) := by
  rw [l.text_eq] at hstart
  -- By the sign: a literal without one begins with a digit, which is no minus.
  by_cases hnegative : l.negative
  · rw [if_pos hnegative, List.cons_append, List.append_assoc, List.append_assoc] at hstart
    rw [readWord, hstart, hnegative]
    rfl
  · obtain ⟨c, digits, hwhole⟩ := List.exists_cons_of_ne_nil l.whole_ne_nil
    have hc : c.isDigit := l.whole_digits c (hwhole ▸ List.mem_cons_self)
    rw [if_neg hnegative, List.append_assoc, List.append_assoc, hwhole, List.cons_append] at hstart
    rw [readWord, hstart, hwhole, List.cons_append, Bool.eq_false_iff.2 hnegative]
    split
    · next heq =>
      obtain rfl := (List.cons.inj heq).1
      exact absurd hc (by decide)
    · next heq =>
      obtain ⟨rfl, rfl⟩ := List.cons.inj heq
      rw [if_pos hc]
    · next heq => exact absurd heq (List.cons_ne_nil _ _)

/-- Only whole numbers are words. -/
theorem eq_integer_of_wordOf {number : Number} {n : UInt32} (h : wordOf number = .ok n) :
    ∃ m : Nat, number = .integer m := by
  cases number with
  | integer m =>
    rw [wordOf] at h
    split at h
    · next hm => exact ⟨m.toNat, by rw [Int.toNat_of_nonneg hm.1]⟩
    · cases h
  | float x => cases h

/-- Words are read from whole numbers that are not negative. -/
theorem readsAdmitted_word : ReadsAdmitted readWord Format.word.asObjects Format.word.admits := by
  intro v start cs rest rest' n hstart hv hends _ hok
  -- The first character is a minus or a digit, and both begin numbers.
  have hnumber : ∃ significand exponent, v = .number significand exponent := by
    have hread := hok
    rw [readWord, hstart] at hread
    split at hread
    · exact kindAt_of_spans hv
    · next c cs =>
      split at hread
      · next hc =>
        have hkind := kindAt_of_spans hv
        unfold KindAt at hkind
        split at hkind
        case h_7 => exact hkind
        all_goals exact absurd hc (by decide)
      · exact absurd hread refuse_ne_ok
    · exact absurd hread refuse_ne_ok
  -- A number that is read as a whole one is written as such, and below zero there is no word.
  obtain ⟨significand, exponent, rfl⟩ := hnumber
  obtain ⟨l, rfl, hsignificand, hpower⟩ := hv
  rw [readWord_literal l hstart, readWord.number] at hok
  obtain ⟨⟨number, middle⟩, hscan, hok⟩ := bind_eq_ok.1 hok
  obtain ⟨word, hword, hok⟩ := bind_eq_ok.1 hok
  obtain ⟨-, rfl⟩ := Prod.mk.inj (Except.ok.inj hok)
  obtain ⟨m, rfl⟩ := eq_integer_of_wordOf hword
  obtain ⟨rfl, hm, hzero⟩ := l.scanNumber_integer hends hscan
  have hwhole : isWhole significand exponent := by
    rw [← hpower, hzero]
    rfl
  have hsign : 0 ≤ significand := by
    rw [← hsignificand, ← hm]
    exact Int.natCast_nonneg m
  exact ⟨rfl, Bool.and_eq_true_iff.2 ⟨hwhole, decide_eq_true hsign⟩⟩

/-! ### Index entries -/

/-- After the colon the reader stands where the colon ends. -/
theorem readColon_inv {after : List Char} {u : Unit} (h : skipSpace cs = ':' :: after)
    (hok : readColon cs = .ok (u, rest')) : rest' = after := by
  rw [readColon_colon h] at hok
  exact (Prod.mk.inj (Except.ok.inj hok)).2.symm

/-- The name of a case is one of those that are listed with what they make. -/
theorem mem_of_entryCase {name : String} {make : String → IndexEntry}
    (h : entryCase name = .ok make) : (name, make) ∈ entryCases := by
  rw [entryCase] at h
  split at h
  · next hlookup =>
    rw [← Except.ok.inj h]
    exact mem_of_lookup hlookup
  · cases h

/-- The only member of an object is read as an index entry. -/
theorem readsAdmitted_member {object : ObjectMembers} {inner : List Char} {entry : IndexEntry}
    (hobject : object.Spans true inner rest) (hok : readEntry.member inner = .ok (entry, rest')) :
    rest' = rest ∧ Format.entry.admits (.object object) := by
  rw [readEntry.member] at hok
  obtain ⟨name, colon', hname, hok⟩ := bind_inv hok
  obtain ⟨make, middle, hmake, hok⟩ := bind_inv hok
  obtain ⟨u, start', hcolon', hok⟩ := bind_inv hok
  obtain ⟨text, after', htext, hok⟩ := bind_inv hok
  obtain ⟨u', last, hclose, hok⟩ := bind_inv hok
  obtain ⟨-, rfl⟩ := Prod.mk.inj (Except.ok.inj hok)
  cases object with
  | nil =>
    -- An object without members has a brace where the name should be.
    rw [readCaseName, show skipSpace inner = '\x7d' :: rest from hobject] at hname
    exact absurd hname refuse_ne_ok
  | cons name' v others =>
    -- The name that is read is the one spelled, and so is the text under it.
    obtain ⟨before, after, ⟨key, colon, start, hkey, hspan, hcolon, hstart⟩, hv, hothers⟩ := hobject
    obtain ⟨rfl, rfl⟩ : name = name' ∧ colon' = colon := by
      obtain ⟨string, rfl, hstring⟩ := hspan
      rw [readCaseName, show skipSpace inner = '"' :: string from hkey] at hname
      exact eq_of_scanString hstring hname
    obtain ⟨hcase, rfl⟩ : entryCase name = .ok make ∧ middle = colon' := by
      obtain ⟨make', hcase, heq⟩ := bind_eq_ok.1 hmake
      obtain ⟨rfl, rfl⟩ := Prod.mk.inj (Except.ok.inj heq)
      exact ⟨hcase, rfl⟩
    obtain rfl := readColon_inv hcolon hcolon'
    obtain ⟨rfl, rfl⟩ := eq_string_of_readText hstart hv htext
    cases others with
    | nil =>
      -- After the only member the object is closed.
      rw [closeEntry_brace (show skipSpace after' = '\x7d' :: rest from hothers)] at hclose
      obtain rfl := (Prod.mk.inj (Except.ok.inj hclose)).2
      have hentry : isEntryCase name (.cons name (.string text) .nil) := by
        simp [isEntryCase, isText, ObjectMembers.toList]
      exact ⟨rfl, List.any_eq_true.2 ⟨(name, make), mem_of_entryCase hcase, hentry⟩⟩
    | cons name'' v' others =>
      -- A second member begins with a comma, where the object should close.
      obtain ⟨_, _, ⟨_, _, _, ⟨_, hcomma, -⟩, -⟩, -⟩ := hothers
      rw [closeEntry, hcomma] at hclose
      cases hclose

/-- Index entries are read from objects with one member, which is one of the cases. -/
theorem readsAdmitted_entry :
    ReadsAdmitted readEntry Format.entry.asObjects Format.entry.admits := by
  intro v start cs rest rest' entry hstart hv hends _ hok
  rw [readEntry, hstart] at hok
  split at hok
  · obtain ⟨object, rfl⟩ := kindAt_of_spans hv
    obtain ⟨inner, heq, hobject⟩ := hv
    obtain rfl := (List.cons.inj heq).2
    exact readsAdmitted_member hobject hok
  · obtain ⟨_, -, hok⟩ := bind_eq_ok.1 hok
    obtain ⟨_, -, hok⟩ := bind_eq_ok.1 hok
    exact absurd hok throw_ne_ok
  · cases hok
  · cases hok

/-! ### Optional values and arrays -/

/-- Optional values are read from nulls, or from what is admitted under them. -/
theorem readsAdmitted_optional {α : Type} {reader : Reader α} {inner : Format}
    (hinner : ReadsAdmitted reader inner.asObjects inner.admits) :
    ReadsAdmitted (readOptional reader) (Format.optional inner).asObjects
      (Format.optional inner).admits := by
  intro v start cs rest rest' a? hstart hv hends hobjects hok
  have hread := hok
  rw [readOptional, hstart] at hread
  split at hread
  · -- A null is read as such.
    next tail =>
    obtain rfl : v = .null := kindAt_of_spans hv
    have hnull : tail = ['u', 'l', 'l'] ++ rest := (List.cons.inj hv).2
    rw [readOptional, hstart, hnull] at hok
    exact ⟨(Prod.mk.inj (Except.ok.inj hok)).2.symm, rfl⟩
  · -- Anything else goes to the inner reader, which starts at the value again.
    obtain ⟨⟨a, middle⟩, hinside, hread⟩ := bind_eq_ok.1
      (show (reader cs >>= fun r => Except.ok (some r.1, r.2)) = .ok (a?, rest') from hread)
    obtain ⟨rfl, hadmits⟩ := hinner v cs cs rest middle a hv.skipSpace hv hends hobjects hinside
    have hadmits' : (Format.optional inner).admits v := by
      by_cases hnull : v = .null
      · rw [hnull]
        rfl
      · rw [Format.admits_optional hnull]
        exact hadmits
    exact ⟨(Prod.mk.inj (Except.ok.inj hread)).2.symm, hadmits'⟩

/-- The entries of an array, one after the other. -/
-- By the entries, as the reader consumes one unit of fuel for each.
theorem readsAdmitted_entries {α : Type} {reader : Reader α} {asObjects admits : Value → Bool}
    (hinner : ReadsAdmitted reader asObjects admits) : ∀ (entries : Values) (fuel : Nat)
      (first : Bool) (cs rest' : List Char) (as : List α), entries.Spans first cs rest →
      (∀ v ∈ entries.toList, asObjects v) → readEntries reader fuel first cs = .ok (as, rest') →
      rest' = ']' :: rest ∧ ∀ v ∈ entries.toList, admits v
  | _, 0, _, _, _, _, _, _, hok => by cases hok
  | .nil, fuel + 1, first, cs, rest', as, h, _, hok => by
    have hend : hasEntry first cs = .ok (false, ']' :: rest) := hasEntry_end h
    rw [readEntries, bind_ok hend] at hok
    exact ⟨(Prod.mk.inj (Except.ok.inj hok)).2.symm, fun v hv => absurd hv List.not_mem_nil⟩
  | .cons v entries, fuel + 1, first, cs, rest', as, ⟨before, after, hbefore, hv, h⟩, hobjects,
      hok => by
    have hskip := hv.skipSpace
    obtain ⟨c, tail, rfl, hc⟩ := hv.begins
    rw [readEntries, bind_ok (hasEntry_separated hbefore (Value.mayBegin_other hc).2.1)] at hok
    obtain ⟨a, middle, hread, hok⟩ := bind_inv (show (reader >>= fun entry =>
      readEntries reader fuel false >>= fun entries => pure (entry :: entries)) (c :: tail) =
        .ok (as, rest') from hok)
    obtain ⟨as', last, hrest, hok⟩ := bind_inv hok
    obtain ⟨-, rfl⟩ := Prod.mk.inj (Except.ok.inj hok)
    obtain ⟨rfl, hadmits⟩ := hinner v _ _ after middle a hskip hv h.numberEnds
      (hobjects v List.mem_cons_self) hread
    obtain ⟨rfl, hothers⟩ := readsAdmitted_entries hinner entries fuel false middle _ as' h
      (fun v hv => hobjects v (List.mem_cons_of_mem _ hv)) hrest
    refine ⟨rfl, fun v' hv' => ?_⟩
    rcases List.mem_cons.1 hv' with rfl | hv'
    · exact hadmits
    · exact hothers v' hv'

/-- Lists are read from arrays of what is admitted in them. -/
theorem readsAdmitted_list {α : Type} {reader : Reader α} {inner : Format}
    (hinner : ReadsAdmitted reader inner.asObjects inner.admits) :
    ReadsAdmitted (readList reader) (Format.list inner).asObjects (Format.list inner).admits := by
  intro v start cs rest rest' as hstart hv hends hobjects hok
  rw [readList, hstart] at hok
  split at hok
  · obtain ⟨entries, rfl⟩ := kindAt_of_spans hv
    obtain ⟨inside, heq, hentries⟩ := hv
    obtain rfl := (List.cons.inj heq).2
    -- The entries leave off at the bracket, which is then read.
    obtain ⟨as', middle, hread, hok⟩ := bind_inv hok
    obtain ⟨rfl, hadmits⟩ :=
      readsAdmitted_entries hinner entries _ true _ middle as' hentries
        (List.all_eq_true.1 hobjects) hread
    have hclose : closeList (']' :: rest) = .ok ((), rest) := closeList_end rfl
    rw [bind_ok hclose] at hok
    exact ⟨(Prod.mk.inj (Except.ok.inj hok)).2.symm, List.all_eq_true.2 hadmits⟩
  · exact absurd hok refuse_ne_ok

/-! ### Records -/

/-- The names of the members that a draft has. -/
def Members.filled : (members : Members) → members.Draft → List String
  | .nil, () => []
  | .cons member _ members, (v?, draft) =>
    (if v?.isSome then [member.name] else []) ++ members.filled draft

/-- Nothing is filled in an empty draft. -/
theorem Members.filled_emptyDraft : ∀ members : Members, members.filled members.emptyDraft = []
  | .nil => rfl
  | .cons _ _ members => filled_emptyDraft members

/-- A record can be completed only with all members that must be present. -/
-- By the members, each with its place in the draft.
theorem Members.mem_filled_of_finish {name : String} : ∀ (members : Members)
    (draft : members.Draft) (vs : members.Val), members.finish draft = .ok vs →
    name ∈ members.requiredNames → name ∈ members.filled draft
  | .nil, (), _, _, h => absurd h List.not_mem_nil
  | .cons member format members, (v?, draft), vs, hfinish, h => by
    rw [filled, List.mem_append]
    rw [Members.requiredNames] at h
    -- A filled place has its name in the list; an empty one must be allowed to be.
    cases v? with
    | some v =>
      rw [Members.finish] at hfinish
      obtain ⟨_, -, hfinish⟩ := bind_eq_ok.1 hfinish
      obtain ⟨vs', hrest, -⟩ := bind_eq_ok.1 hfinish
      have hothers : name ∈ members.requiredNames → name ∈ members.filled draft :=
        mem_filled_of_finish members draft vs' hrest
      split at h
      · exact .inr (hothers h)
      · exact (List.mem_cons.1 h).imp List.mem_singleton.2 hothers
    | none =>
      rw [Members.finish] at hfinish
      split at hfinish
      · next v hv =>
        -- Only a member that may be absent has a default here.
        have habsent : member.mayBeAbsent := by
          split at hv
          · assumption
          · cases hv
        obtain ⟨_, -, hfinish⟩ := bind_eq_ok.1 hfinish
        obtain ⟨vs', hrest, -⟩ := bind_eq_ok.1 hfinish
        rw [if_pos habsent] at h
        exact .inr (mem_filled_of_finish members draft vs' hrest h)
      · cases hfinish

/-- Every member is read by its format as far as it is admitted. -/
def Members.ReadAdmitted : Members → Prop
  | .nil => True
  | .cons _ format members =>
    ReadsAdmitted format.read format.asObjects format.admits ∧ members.ReadAdmitted

/-- **A member that is read** is admitted under its name, and fills at most its own place. -/
theorem Members.readMember_admitted {name : String} {colon before after : List Char}
    (hcolon : skipSpace colon = ':' :: start) (hstart : skipSpace start = before)
    (hv : v.Spans before after) (hends : NumberEnds after) :
    ∀ (members : Members) (draft draft' : members.Draft) (read : Reader members.Draft)
      (rest' : List Char), members.wellFormed → members.ReadAdmitted → members.asObjectsAt name v →
      members.readMember name draft = some read → read colon = .ok (draft', rest') →
      rest' = after ∧ members.admitsAt name v ∧
        ∀ n ∈ members.filled draft', n = name ∨ n ∈ members.filled draft
  -- By the members, in the order in which their names are compared.
  | .nil, _, _, _, _, _, _, _, h, _ => by cases h
  | .cons member format members, (v?, draft), draft', read, rest', hwf, ⟨hformat, hothers⟩,
      hobjects, h, hok => by
    obtain ⟨hunique, -, -, hwf⟩ := Members.wellFormed_cons hwf
    obtain ⟨hobjects, hobjects'⟩ := Members.asObjectsAt_cons.1 hobjects
    rw [Members.readMember] at h
    by_cases hname : name = member.name
    · -- The member itself: a second one of its name is refused.
      rw [if_pos hname] at h
      obtain rfl := Option.some.inj h
      cases v? with
      | some v' => cases hok
      | none =>
        obtain ⟨u, start', hcolon', hok⟩ := bind_inv (show (readColon >>= fun _ =>
          format.read >>= fun value => pure (some value, draft)) colon = .ok (draft', rest')
          from hok)
        obtain ⟨value, middle, hread, hok⟩ := bind_inv hok
        obtain ⟨rfl, rfl⟩ := Prod.mk.inj (Except.ok.inj hok)
        obtain rfl := readColon_inv hcolon hcolon'
        obtain ⟨rfl, hadmits⟩ :=
          hformat v start' before after middle value hstart hv hends (hobjects hname) hread
        have hnew : name ∉ members.names := hname ▸ hunique
        refine ⟨rfl, Members.admitsAt_cons.2 ⟨fun _ => hadmits, members.admitsAt_other hnew⟩,
          fun n hn => ?_⟩
        rcases List.mem_append.1 hn with hn | hn
        · exact .inl ((List.mem_singleton.1 hn).trans hname.symm)
        · exact .inr (List.mem_append_right _ hn)
    · -- One of the members after it, whose places are not touched by this one.
      rw [if_neg hname] at h
      cases hrest : members.readMember name draft with
      | none =>
        rw [hrest] at h
        cases h
      | some read' =>
        rw [hrest] at h
        obtain rfl := Option.some.inj h
        obtain ⟨draft'', middle, hread, hok⟩ := bind_inv hok
        obtain ⟨rfl, rfl⟩ := Prod.mk.inj (Except.ok.inj hok)
        obtain ⟨rfl, hadmits, hfilled⟩ := readMember_admitted hcolon hstart hv hends members draft
          draft'' read' middle hwf hothers hobjects' hrest hread
        refine ⟨rfl, Members.admitsAt_cons.2 ⟨fun heq => absurd heq hname, hadmits⟩,
          fun n hn => ?_⟩
        rcases List.mem_append.1 hn with hn | hn
        · exact .inr (List.mem_append_left _ hn)
        · exact (hfilled n hn).imp_right (List.mem_append_right _)

/-- **The members of an object** that is read into a draft: each one is admitted, and the draft has
nothing that the object does not have. -/
theorem readsAdmitted_members {members : Members} (hwf : members.wellFormed)
    (hread : members.ReadAdmitted) : ∀ (object : ObjectMembers) (fuel : Nat) (first : Bool)
      (cs rest' : List Char) (draft draft' : members.Draft), object.Spans first cs rest →
      (∀ item ∈ object.toList, members.asObjectsAt item.1 item.2) →
      readMembers members.readMember fuel first draft cs = .ok (draft', rest') →
      rest' = '\x7d' :: rest ∧ (∀ item ∈ object.toList, members.admitsAt item.1 item.2) ∧
        ∀ n ∈ members.filled draft', n ∈ object.toList.map (·.1) ∨ n ∈ members.filled draft
  -- By the members of the object, for every draft: each leaves one that has more in it.
  | _, 0, _, _, _, _, _, _, _, hok => by cases hok
  | .nil, fuel + 1, first, cs, rest', draft, draft', h, _, hok => by
    have hend : hasMember first cs = .ok (false, '\x7d' :: rest) := hasMember_end h
    rw [readMembers, bind_ok hend] at hok
    obtain ⟨rfl, rfl⟩ := Prod.mk.inj (Except.ok.inj hok)
    exact ⟨rfl, fun item hitem => absurd hitem List.not_mem_nil, fun n hn => .inr hn⟩
  | .cons name v object, fuel + 1, first, cs, rest', draft, draft',
      ⟨before, after, ⟨key, colon, start, hkey, hname, hcolon, hstart⟩, hv, h⟩, hobjects, hok => by
    obtain ⟨string, rfl, hstring⟩ := hname
    rw [readMembers, bind_ok (hasMember_separated hkey), if_pos rfl] at hok
    obtain ⟨name', colon', htext, hok⟩ := bind_inv hok
    obtain ⟨rfl, rfl⟩ := eq_of_readText (skipSpace_cons (by decide)) ⟨string, rfl, hstring⟩ htext
    have hobject := hobjects _ List.mem_cons_self
    have hobjects := fun item hitem => hobjects item (List.mem_cons_of_mem _ hitem)
    -- Both kinds of members leave a draft after the value, and the rest of the object is read.
    have hstep : ∃ draft'', members.admitsAt name' v ∧
        (∀ n ∈ members.filled draft'', n = name' ∨ n ∈ members.filled draft) ∧
        readMembers members.readMember fuel false draft'' after = .ok (draft', rest') := by
      cases hknown : members.readMember name' draft with
      | some read =>
        rw [hknown] at hok
        obtain ⟨draft'', middle, hitem, hok⟩ := bind_inv hok
        obtain ⟨rfl, hadmits, hfilled⟩ := Members.readMember_admitted hcolon hstart hv h.numberEnds
          members draft draft'' read middle hwf hread hobject hknown hitem
        exact ⟨draft'', hadmits, hfilled, hok⟩
      | none =>
        rw [hknown] at hok
        obtain ⟨u, start', hcolon', hok⟩ := bind_inv (show (readColon >>= fun _ =>
          readIgnored >>= fun _ => readMembers members.readMember fuel false draft) colon' =
            .ok (draft', rest') from hok)
        obtain rfl := readColon_inv hcolon hcolon'
        have hignored : readIgnored start' = .ok ((), after) := by
          rw [readIgnored, hv.skipValue hstart h.numberEnds]
          rfl
        rw [bind_ok hignored] at hok
        exact ⟨draft, members.admitsAt_other ((members.readMember_eq_none draft).1 hknown),
          fun n hn => .inr hn, hok⟩
    obtain ⟨draft'', hadmits, hfilled, hok⟩ := hstep
    -- What the draft has at the end came from this member or from one of the others.
    obtain ⟨rfl, hothers, hfilled'⟩ :=
      readsAdmitted_members hwf hread object fuel false after rest' draft'' draft' h hobjects hok
    refine ⟨rfl, fun item hitem => ?_, fun n hn => ?_⟩
    · rcases List.mem_cons.1 hitem with rfl | hitem
      · exact hadmits
      · exact hothers item hitem
    · rcases hfilled' n hn with hn | hn
      · exact .inl (List.mem_cons_of_mem _ hn)
      · refine (hfilled n hn).imp_left fun heq => ?_
        rw [heq]
        exact List.mem_cons_self

/-- Records are read from objects whose members are admitted under their names, and which have all
members that must be present. -/
theorem readsAdmitted_record (label : Label) {members : Members} (hwf : members.wellFormed)
    (hread : members.ReadAdmitted) :
    ReadsAdmitted (Format.record label members).read (Format.record label members).asObjects
      (Format.record label members).admits := by
  intro v start cs rest rest' (vs : members.Val) hstart hv hends hobjects hok
  rw [Format.read_record] at hok
  replace hok : members.readRecord label start = .ok (vs, rest') := hok
  rw [Members.readRecord, hstart] at hok
  split at hok
  · -- The record would be an array.
    obtain ⟨entries, rfl⟩ := kindAt_of_spans hv
    exact absurd hobjects Bool.false_ne_true
  · obtain ⟨object, rfl⟩ := kindAt_of_spans hv
    obtain ⟨inner, heq, hobject⟩ := hv
    obtain rfl := (List.cons.inj heq).2
    obtain ⟨draft, middle, hmembers, hok⟩ := bind_inv hok
    obtain ⟨rfl, hadmits, hfilled⟩ := readsAdmitted_members hwf hread object _ true _ middle
      members.emptyDraft draft hobject (List.all_eq_true.1 hobjects) hmembers
    obtain ⟨vs', middle, hfinish, hok⟩ := bind_inv hok
    obtain ⟨vs'', hdone, heq⟩ := bind_eq_ok.1 hfinish
    obtain ⟨rfl, rfl⟩ := Prod.mk.inj (Except.ok.inj heq)
    have hclose : closeObject ('\x7d' :: rest) = .ok ((), rest) := closeObject_end rfl
    rw [bind_ok hclose] at hok
    -- A required member is filled at the end, and it was not filled in the empty draft.
    refine ⟨(Prod.mk.inj (Except.ok.inj hok)).2.symm, Bool.and_eq_true_iff.2
      ⟨List.all_eq_true.2 hadmits, List.all_eq_true.2 fun name hname => decide_eq_true ?_⟩⟩
    refine (hfilled name (members.mem_filled_of_finish draft _ hdone hname)).resolve_right ?_
    rw [members.filled_emptyDraft]
    exact List.not_mem_nil
  · exact absurd hok refuse_ne_ok

/-! ### All formats -/

mutual
/-- **Every well-formed format** reads only what it admits. -/
theorem Format.reads_admitted : ∀ format : Format, format.wellFormed →
    ReadsAdmitted format.read format.asObjects format.admits
  | .text, _ => readsAdmitted_text
  | .flag, _ => readsAdmitted_flag
  | .word, _ => readsAdmitted_word
  | .kind, _ => readsAdmitted_kind
  | .entry, _ => readsAdmitted_entry
  | .optional inner, h => by
    rw [Format.wellFormed, Bool.and_eq_true] at h
    exact readsAdmitted_optional (Format.reads_admitted inner h.2)
  | .list inner, h => readsAdmitted_list (Format.reads_admitted inner h)
  | .record label members, h => readsAdmitted_record label h (Members.read_admitted members h)

/-- Every member of a well-formed record is read as far as it is admitted. -/
theorem Members.read_admitted : ∀ members : Members, members.wellFormed → members.ReadAdmitted
  | .nil, _ => trivial
  | .cons _ format members, h =>
    have hparts := Members.wellFormed_cons h
    ⟨Format.reads_admitted format hparts.2.2.1, Members.read_admitted members hparts.2.2.2⟩
end

/-- **A text that is parsed** spells a value that the format admits, if all records in it are
objects. -/
theorem Format.admits_of_parse {format : Format} (hwf : format.wellFormed) {text : String}
    {v : Value} {a : format.Val} (hspells : v.Spells text) (hobjects : format.asObjects v)
    (hok : format.parse text = .ok a) : format.admits v := by
  obtain ⟨rest, hspans, hrest⟩ := hspells
  -- At the end of the text, after white space, no number goes on.
  have hends : NumberEnds rest := by
    refine numberEnds_of_skipSpace ?_
    rw [hrest]
    rintro c ⟨⟩
  obtain ⟨⟨a', rest'⟩, hread, -⟩ := bind_eq_ok.1 hok
  exact (format.reads_admitted hwf v _ _ rest rest' a' rfl hspans hends hobjects hread).2

end SchemaDiagram.Snapshot
