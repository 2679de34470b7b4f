import SchemaDiagram.Proofs.JsonSkipping
import SchemaDiagram.Snapshot.Spelling

/-!
# Readers take what is spelled

`Takes reader spans` says that a reader gives back every value from any of its spellings, and stops
where the spelling ends. It is shown here of the readers of strings, truth values, words, tags and
index entries, and of optional values and arrays over a reader of which it holds.
-/

namespace SchemaDiagram.Snapshot

open Json

/-- **Taking what is spelled:** the reader takes every value from any of its spellings, whatever
white space stands before it. -/
def Takes {α : Type} (reader : Reader α) (spans : α → List Char → List Char → Prop) : Prop :=
  ∀ (v : α) (start cs rest : List Char), skipSpace start = cs → spans v cs rest →
    NumberEnds rest → reader start = .ok (v, rest)

/-- **Proper spellings** begin with a character that is neither white space nor closes an array, and
end after it. -/
def Proper {α : Type} (spans : α → List Char → List Char → Prop) : Prop :=
  ∀ (v : α) (cs rest : List Char), spans v cs rest →
    ∃ c after, cs = c :: after ∧ rest.length ≤ after.length ∧ isSpace c = false ∧ c ≠ ']'

variable {first : Bool} {c : Char} {cs rest : List Char}

/-- A proper spelling has no white space before it. -/
theorem Proper.skipSpace {α : Type} {spans : α → List Char → List Char → Prop} (h : Proper spans)
    {v : α} (hv : spans v cs rest) : Json.skipSpace cs = cs := by
  obtain ⟨c, after, rfl, -, hspace, -⟩ := h v cs rest hv
  exact skipSpace_cons hspace

/-- A proper spelling takes up part of the text. -/
theorem Proper.length_lt {α : Type} {spans : α → List Char → List Char → Prop} (h : Proper spans)
    {v : α} (hv : spans v cs rest) : rest.length < cs.length := by
  obtain ⟨c, after, rfl, hlength, -⟩ := h v cs rest hv
  exact Nat.lt_succ_of_le hlength

/-- A sequence goes on with what its first reader has read. -/
theorem bind_ok {α β : Type} {reader : Reader α} {next : α → Reader β} {a : α}
    (h : reader cs = .ok (a, rest)) : (reader >>= next) cs = next a rest := by
  change (reader cs >>= fun r => next r.1 r.2) = _
  rw [h]
  rfl

/-- A step that reads nothing. -/
theorem lift_ok {α : Type} {x : Except Json.Error α} {a : α} (h : x = .ok a) (cs : List Char) :
    (liftM x : Reader α) cs = .ok (a, cs) := by
  rw [h]
  rfl

/-! ### Leaves -/

/-- A strict string is scanned as what it spells. -/
theorem scanString_span {s : String} {inner : List Char}
    (h : StringSpan false s.toList inner rest) :
    scanString [] inner = .ok (s, rest) := by
  have hscan := (h.scanString []).resolve_right fun hloose => Bool.false_ne_true hloose.1
  rwa [List.reverse_nil, List.nil_append, String.ofList_toList] at hscan

/-- A string is read, wherever it stands. -/
theorem readText_span {s : String} {start : List Char} (hstart : skipSpace start = cs)
    (h : TextSpan false s cs rest) : readText start = .ok (s, rest) := by
  obtain ⟨inner, rfl, hstring⟩ := h
  rw [readText, hstart]
  exact scanString_span hstring

/-- **Texts** are taken as they are spelled. -/
theorem takes_text : Takes readText (TextSpan false) := fun _ _ _ _ hstart h _ =>
  readText_span hstart h

/-- **Flags** are taken as they are spelled. -/
theorem takes_flag : Takes readFlag fun b => (Value.bool b).Spans := by
  intro b start cs rest hstart h _
  cases b with
  | false =>
    rw [readFlag, hstart, show cs = _ from h]
    rfl
  | true =>
    rw [readFlag, hstart, show cs = _ from h]
    rfl

/-- **Words** are taken in their digits. -/
theorem takes_word : Takes readWord fun n cs rest => cs = Nat.toDigits 10 n.toNat ++ rest := by
  intro n start cs rest hstart h hrest
  have hlt : n.toNat < 2 ^ 32 := n.toNat_lt
  have hscan : scanNumber false (Nat.toDigits 10 n.toNat ++ rest) =
      .ok (.integer n.toNat, rest) := by
    refine scanNumber_toDigits ?_ hrest
    rw [maxSignificand]
    exact Nat.le_sub_one_of_lt (Nat.lt_trans hlt (by decide))
  have hword : wordOf (.integer n.toNat) = .ok n := by
    rw [wordOf, if_pos ⟨Int.natCast_nonneg _, by simpa using hlt⟩]
    simp
  obtain ⟨c, digits, hdigits, hc⟩ := toDigits_begins n.toNat
  -- A digit is no sign, so the number has none.
  have hsign : c ≠ '-' := by
    rintro rfl
    exact absurd hc (by decide)
  rw [hdigits] at h hscan
  -- The reader looks at the first character, which is a digit.
  rw [readWord, hstart, h, List.cons_append]
  split
  · next heq => exact absurd (List.cons.inj heq).1 hsign
  · next heq =>
    obtain ⟨rfl, rfl⟩ := List.cons.inj heq
    rw [if_pos hc, readWord.number, ← List.cons_append, hscan]
    change (wordOf (.integer n.toNat) >>= fun w => Except.ok (w, rest)) = _
    rw [hword]
    rfl
  · next heq => exact absurd heq (List.cons_ne_nil _ _)

/-- **Kinds** are taken by the names under which they are written. -/
theorem takes_kind : Takes readKind fun kind => TextSpan false kind.tag := by
  intro kind start cs rest hstart h _
  rw [readKind, bind_ok (readText_span hstart h), RelationKind.ofTag?_tag]
  rfl

/-! #### Index entries -/

/-- A colon is read where one stands. -/
theorem readColon_colon {after : List Char} (h : skipSpace cs = ':' :: after) :
    readColon cs = .ok ((), after) := by
  rw [readColon, h]
  rfl

/-- The name of a case is read as it is spelled. -/
theorem readCaseName_span {s : String} {start : List Char} (hstart : skipSpace start = cs)
    (h : TextSpan false s cs rest) : readCaseName start = .ok (s, rest) := by
  obtain ⟨inner, rfl, hstring⟩ := h
  rw [readCaseName, hstart]
  exact scanString_span hstring

/-- The object of an entry is closed by its brace. -/
theorem closeEntry_brace (h : skipSpace cs = '\x7d' :: rest) : closeEntry cs = .ok ((), rest) := by
  rw [closeEntry, h]
  rfl

/-- A case that is listed makes what it is listed with. -/
theorem entryCase_of_mem {name : String} {make : String → IndexEntry}
    (h : (name, make) ∈ entryCases) : entryCase name = .ok make := by
  simp only [entryCases, List.mem_cons, List.not_mem_nil, or_false] at h
  rcases h with h | h <;> obtain ⟨rfl, rfl⟩ := Prod.mk.inj h <;> rfl

/-- **Index entries** are taken as objects of one member, which is their case. -/
theorem takes_entry : Takes readEntry EntrySpan := by
  rintro entry start cs rest hstart h -
  -- The parts of the spelling are read one after the other.
  obtain ⟨name, make, text, inner, before, after, hcase, rfl, rfl, hmember, htext, hbrace⟩ := h
  obtain ⟨key, colon, value, hkey, hname, hcolon, hvalue⟩ := hmember
  have hmake := entryCase_of_mem hcase
  rw [readEntry, hstart]
  change readEntry.member inner = _
  rw [readEntry.member, bind_ok (readCaseName_span hkey hname), bind_ok (lift_ok hmake colon),
    bind_ok (readColon_colon hcolon), bind_ok (readText_span hvalue htext),
    bind_ok (closeEntry_brace hbrace)]
  rfl

/-! ### Optional values -/

/-- Over a reader of values none of whose spellings begins like `null`. -/
theorem takes_optional {α : Type} {inner : Reader α} {spans : α → List Char → List Char → Prop}
    (hinner : Takes inner spans) (hproper : Proper spans)
    (hnull : ∀ v cs rest, spans v ('n' :: cs) rest → False) :
    Takes (readOptional inner) fun v? => v?.elim Value.null.Spans spans := by
  intro v? start cs rest hstart h hrest
  cases v? with
  | none =>
    rw [readOptional, hstart, show cs = _ from h]
    rfl
  | some v =>
    have h : spans v cs rest := h
    have hread : inner cs = .ok (v, rest) := hinner v cs cs rest (hproper.skipSpace h) h hrest
    rw [readOptional, hstart]
    -- What does not begin like a null goes to the reader of the values.
    split
    · exact absurd h (hnull v _ rest)
    · change (inner cs >>= fun r => Except.ok (some r.1, r.2)) = _
      rw [hread]
      rfl

/-! ### Arrays -/

/-- What follows the entries that have been read does not go on with the last of them. -/
theorem numberEnds_entries {α : Type} {spans : α → List Char → List Char → Prop} {vs : List α}
    (h : EntriesSpan spans false vs cs rest) : NumberEnds cs := by
  refine numberEnds_of_skipSpace ?_
  cases vs with
  | nil =>
    rw [show skipSpace cs = ']' :: rest from h]
    exact NumberEnds.cons (by decide) rest
  | cons v vs =>
    obtain ⟨_, _, ⟨_, hcomma, -⟩, -⟩ := h
    rw [hcomma]
    exact NumberEnds.cons (by decide) _

/-- An entry follows where one is spelled. -/
theorem hasEntry_separated {before : List Char} (h : Separated first cs (c :: before))
    (hc : c ≠ ']') : hasEntry first cs = .ok (true, c :: before) := by
  cases first with
  | true =>
    rw [hasEntry, show skipSpace cs = c :: before from h]
    split
    · next heq => exact absurd heq (List.cons_ne_nil _ _)
    · next heq => exact absurd (List.cons.inj heq).1 hc
    · next heq => rw [if_pos rfl, ← heq]
  | false =>
    obtain ⟨after, hcomma, hafter⟩ := h
    rw [hasEntry, hcomma]
    split
    · next heq => exact absurd heq (List.cons_ne_nil _ _)
    · next heq => exact absurd (List.cons.inj heq).1 (by decide)
    · next heq =>
      -- Behind the comma stands what follows it, less the white space.
      obtain ⟨rfl, rfl⟩ := List.cons.inj heq
      rw [if_neg Bool.false_ne_true, if_pos rfl, hafter]
      split
      · next heq => exact absurd (List.cons.inj heq).1 hc
      · next heq => exact absurd heq (List.cons_ne_nil _ _)
      · rfl

/-- No entry follows where the array closes. -/
theorem hasEntry_end (h : skipSpace cs = ']' :: rest) :
    hasEntry first cs = .ok (false, ']' :: rest) := by
  rw [hasEntry, h]
  rfl

/-- Entries take up part of the text, each of them and the closing bracket. -/
theorem EntriesSpan.length_lt {α : Type} {spans : α → List Char → List Char → Prop}
    (hproper : Proper spans) {vs : List α} {first : Bool} {cs rest : List Char}
    (h : EntriesSpan spans first vs cs rest) : rest.length < cs.length := by
  induction vs generalizing first cs with
  | nil => exact length_lt_of_skipSpace h
  | cons v vs ih =>
    obtain ⟨before, after, hbefore, hv, hvs⟩ := h
    exact Nat.lt_of_lt_of_le (Nat.lt_trans (ih hvs) (hproper.length_lt hv)) hbefore.length_le

/-- **The entries of an array** are taken one after the other; the fuel is longer than the text, and
every entry takes up part of it. -/
theorem readEntries_span {α : Type} {inner : Reader α} {spans : α → List Char → List Char → Prop}
    (hinner : Takes inner spans) (hproper : Proper spans) (vs : List α) :
    ∀ (fuel : Nat) (first : Bool) (cs : List Char), EntriesSpan spans first vs cs rest →
      cs.length < fuel → readEntries inner fuel first cs = .ok (vs, ']' :: rest) := by
  -- By the entries, for any fuel that is left for the text that is left.
  induction vs with
  | nil =>
    intro fuel first cs h hfuel
    obtain ⟨fuel, rfl⟩ := Nat.exists_eq_add_one_of_ne_zero (Nat.ne_zero_of_lt hfuel)
    have hend : hasEntry first cs = .ok (false, ']' :: rest) := hasEntry_end h
    exact bind_ok hend
  | cons v vs ih =>
    intro fuel first cs h hfuel
    obtain ⟨fuel, rfl⟩ := Nat.exists_eq_add_one_of_ne_zero (Nat.ne_zero_of_lt hfuel)
    obtain ⟨before, after, hbefore, hv, hvs⟩ := h
    have hread := hinner v before before after (hproper.skipSpace hv) hv (numberEnds_entries hvs)
    have hshorter := Nat.lt_of_lt_of_le (hproper.length_lt hv) hbefore.length_le
    have hrest := ih fuel false after hvs (Nat.lt_of_lt_of_le hshorter (Nat.le_of_lt_succ hfuel))
    obtain ⟨c, tail, rfl, -, -, hc⟩ := hproper v before after hv
    rw [readEntries, bind_ok (hasEntry_separated hbefore hc)]
    change (inner >>= _) _ = _
    rw [bind_ok hread, bind_ok hrest]
    rfl

/-- An array is closed by its bracket. -/
theorem closeList_end (h : skipSpace cs = ']' :: rest) : closeList cs = .ok ((), rest) := by
  rw [closeList, h]
  rfl

/-- **Arrays** over a reader of their entries. -/
theorem takes_list {α : Type} {inner : Reader α} {spans : α → List Char → List Char → Prop}
    (hinner : Takes inner spans) (hproper : Proper spans) :
    Takes (readList inner) fun vs cs rest =>
      ∃ entries, cs = '[' :: entries ∧ EntriesSpan spans true vs entries rest := by
  rintro vs start cs rest hstart ⟨entries, rfl, h⟩ -
  have hentries := readEntries_span hinner hproper vs _ true entries h (Nat.lt_add_one _)
  have hclose : closeList (']' :: rest) = .ok ((), rest) := closeList_end rfl
  rw [readList, hstart]
  change (readEntries inner _ true >>= _) _ = _
  rw [bind_ok hentries, bind_ok hclose]
  rfl

end SchemaDiagram.Snapshot
