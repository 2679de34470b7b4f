import SchemaDiagram.Proofs.JsonGrammar

/-!
# Skipping values

A value of which nothing is kept is skipped to its end, whatever it is and however it is laid out
(`Value.Spans.skipValue`). Skipping is a walk through the text with a stack of open brackets. Its
fuel is bounded by a potential of the text that is left, which every step lowers (`SkipsTo`).
-/

namespace SchemaDiagram.Json

variable {loose first : Bool} {c : Char} {cs next rest : List Char}

/-- The fuel that the walk needs in this state before this text. -/
def SkipState.fuel (state : SkipState) (cs : List Char) : Nat :=
  2 * cs.length + match state with
    | .opened => 2
    | .before | .after => 1

/-- **The walk comes to the end of a value** at `rest`, where it has closed the brackets `opened`;
of enough fuel, enough is left. -/
def SkipsTo (opened : List Bracket) (state : SkipState) (cs rest : List Char) : Prop :=
  ∀ fuel, state.fuel cs ≤ fuel → ∃ left, SkipState.after.fuel rest ≤ left ∧
    ∀ brackets, skipFrom fuel (opened ++ brackets) state cs = skipFrom left brackets .after rest

namespace SkipsTo

variable {opened opened' : List Bracket} {state state' : SkipState} {cs' middle : List Char}

/-- At the end of the value nothing is left to do. -/
theorem refl (rest : List Char) : SkipsTo [] .after rest rest := fun fuel hfuel =>
  ⟨fuel, hfuel, fun _ => rfl⟩

/-- One step of the walk, where the fuel that is needed becomes less. -/
theorem step (h : SkipsTo opened' state' cs' rest) (hfuel : state'.fuel cs' < state.fuel cs)
    (hstep : ∀ fuel brackets, skipFrom (fuel + 1) (opened ++ brackets) state cs =
      skipFrom fuel (opened' ++ brackets) state' cs') : SkipsTo opened state cs rest := by
  intro fuel henough
  obtain ⟨fuel, rfl⟩ := Nat.exists_eq_add_one_of_ne_zero
    (Nat.ne_zero_of_lt (Nat.lt_of_lt_of_le hfuel henough))
  obtain ⟨left, hleft, hrun⟩ := h fuel (Nat.le_of_lt_succ (Nat.lt_of_lt_of_le hfuel henough))
  exact ⟨left, hleft, fun brackets => (hstep fuel brackets).trans (hrun brackets)⟩

/-- Two walks one after the other, the first of which closes all that it has opened. -/
theorem trans (h : SkipsTo [] state cs middle) (h' : SkipsTo opened .after middle rest) :
    SkipsTo opened state cs rest := by
  intro fuel henough
  obtain ⟨left, hleft, hrun⟩ := h fuel henough
  obtain ⟨left', hleft', hrun'⟩ := h' left hleft
  exact ⟨left', hleft', fun brackets => (hrun (opened ++ brackets)).trans (hrun' brackets)⟩

/-- A value without brackets is skipped in one step. -/
theorem scalar (hlength : rest.length < cs.length)
    (hstep : ∀ fuel brackets, skipFrom (fuel + 1) brackets .before cs =
      skipFrom fuel brackets .after rest) : SkipsTo [] .before cs rest := by
  refine (refl rest).step ?_ hstep
  simp only [SkipState.fuel]
  omega

end SkipsTo

/-- The name of a member and its colon are skipped. -/
theorem skipName_object {name : String} {key colon after : List Char}
    (hkey : Json.skipSpace cs = key) (htext : TextSpan loose name key colon)
    (hcolon : Json.skipSpace colon = ':' :: after) : skipName .object cs = .ok after := by
  obtain ⟨inner, rfl, hstring⟩ := htext
  rw [skipName, hkey]
  refine bind_eq_ok.2 ⟨colon, hstring.skipString, ?_⟩
  rw [hcolon]
  rfl

/-- A number is skipped in one step. -/
theorem skipFrom_number (l : Literal) (hcs : Json.skipSpace cs = l.text ++ rest)
    (hrest : NumberEnds rest) (fuel : Nat) (brackets : List Bracket) :
    skipFrom (fuel + 1) brackets .before cs = skipFrom fuel brackets .after rest := by
  have hskip := l.skipNumber hrest
  rw [l.text_eq] at hcs
  -- By the sign: without one, the number begins with a digit.
  by_cases hnegative : l.negative
  · rw [if_pos hnegative, List.cons_append, List.append_assoc, List.append_assoc] at hcs
    rw [skipFrom, hcs]
    change (Json.skipNumber _ >>= fun cs => skipFrom fuel brackets .after cs) = _
    rw [hskip]
    rfl
  · obtain ⟨c, digits, hwhole⟩ := List.exists_cons_of_ne_nil l.whole_ne_nil
    have hc : c.isDigit := l.whole_digits c (hwhole ▸ List.mem_cons_self)
    rw [if_neg hnegative, List.append_assoc, List.append_assoc, hwhole, List.cons_append] at hcs
    rw [hwhole, List.cons_append] at hskip
    have hne : ∀ c' : Char, c'.isDigit = false → c ≠ c' := by
      rintro c' hc' rfl
      exact absurd hc (by simp [hc'])
    rw [skipFrom, hcs]
    -- All other cases are those of characters that are no digits.
    split
    · next heq => exact absurd heq (List.cons_ne_nil _ _)
    · next heq => exact absurd (List.cons.inj heq).1 (hne 'n' (by decide))
    · next heq => exact absurd (List.cons.inj heq).1 (hne 't' (by decide))
    · next heq => exact absurd (List.cons.inj heq).1 (hne 'f' (by decide))
    · next heq => exact absurd (List.cons.inj heq).1 (hne '-' (by decide))
    · next heq => exact absurd (List.cons.inj heq).1 (hne '"' (by decide))
    · next heq => exact absurd (List.cons.inj heq).1 (hne '[' (by decide))
    · next heq => exact absurd (List.cons.inj heq).1 (hne '\x7b' (by decide))
    · next heq =>
      obtain ⟨rfl, rfl⟩ := List.cons.inj heq
      rw [if_pos hc, hskip]
      rfl

/-- The walk goes on within a bracket where it has just been opened or a value has ended in it. -/
def SkipState.within (first : Bool) : SkipState := if first then .opened else .after

namespace SkipsTo

variable {bracket : Bracket}

/-- The bracket closes. -/
theorem closing (h : Json.skipSpace cs = bracket.closing :: rest) :
    SkipsTo [bracket] (.within first) cs rest := by
  have hlength := length_lt_of_skipSpace h
  refine (refl rest).step ?_ fun fuel brackets => ?_
  · simp only [SkipState.fuel]
    omega
  · change skipFrom (fuel + 1) (bracket :: brackets) _ cs = skipFrom fuel brackets .after rest
    -- Either the bracket has just been opened, or a value has ended in it.
    cases first with
    | true =>
      rw [SkipState.within, if_pos rfl, skipFrom, h]
      exact if_pos rfl
    | false =>
      rw [SkipState.within, if_neg Bool.false_ne_true, skipFrom, h]
      cases bracket <;> rfl

/-- Another value follows, in an object after its name. -/
theorem value (h : Separated first cs (c :: next)) (hc : c ≠ bracket.closing)
    (hname : ∀ key, Json.skipSpace key = c :: next → ∃ start, skipName bracket key = .ok start ∧
      start.length ≤ key.length ∧ SkipsTo [bracket] .before start rest) :
    SkipsTo [bracket] (.within first) cs rest := by
  cases first with
  | true =>
    -- The value stands right behind the bracket, perhaps after white space, which is skipped twice.
    have hskip : Json.skipSpace cs = c :: next := h
    have hagain : Json.skipSpace (c :: next) = c :: next := hskip ▸ skipSpace_skipSpace cs
    obtain ⟨start, hstart, hlength, hrest⟩ := hname _ hagain
    have hle := hskip ▸ skipSpace_length_le cs
    refine hrest.step ?_ fun fuel brackets => ?_
    · simp only [SkipState.within, SkipState.fuel, if_pos]
      omega
    · change skipFrom (fuel + 1) (bracket :: brackets) .opened cs = _
      rw [skipFrom, hskip]
      change (if c = bracket.closing then _ else skipName bracket (c :: next) >>= fun cs =>
        skipFrom fuel (bracket :: brackets) .before cs) = _
      rw [if_neg hc, hstart]
      rfl
  | false =>
    -- A comma stands between this value and the one before it.
    obtain ⟨after, hcomma, hskip⟩ := h
    obtain ⟨start, hstart, hlength, hrest⟩ := hname _ hskip
    have hlt := length_lt_of_skipSpace hcomma
    refine hrest.step ?_ fun fuel brackets => ?_
    · simp only [SkipState.fuel]
      omega
    · change skipFrom (fuel + 1) (bracket :: brackets) .after cs = _
      rw [skipFrom, hcomma]
      change (if ',' = ',' then skipName bracket after >>= fun cs =>
        skipFrom fuel (bracket :: brackets) .before cs else _) = _
      rw [if_pos rfl, hstart]
      rfl

end SkipsTo

mutual
/-- **Every value is skipped to its end.** -/
theorem Value.Spans.skipsTo (v : Value) {start cs rest : List Char}
    (hstart : Json.skipSpace start = cs) (h : v.Spans cs rest) (hrest : NumberEnds rest) :
    SkipsTo [] .before start rest := by
  have hle : cs.length ≤ start.length := hstart ▸ skipSpace_length_le start
  have hlength := Nat.lt_of_lt_of_le (Value.Spans.length_lt v h) hle
  -- Scalars take one step; an array or object opens its bracket and goes on within it.
  match v, h with
  | .null, h =>
    refine SkipsTo.scalar hlength fun fuel brackets => ?_
    rw [skipFrom, hstart, show cs = _ from h]
    rfl
  | .bool true, h =>
    refine SkipsTo.scalar hlength fun fuel brackets => ?_
    rw [skipFrom, hstart, show cs = _ from h]
    rfl
  | .bool false, h =>
    refine SkipsTo.scalar hlength fun fuel brackets => ?_
    rw [skipFrom, hstart, show cs = _ from h]
    rfl
  | .number _ _, ⟨l, hcs, _⟩ =>
    exact SkipsTo.scalar hlength (skipFrom_number l (hstart.trans hcs) hrest)
  | .string _, ⟨inner, hcs, hstring⟩ =>
    refine SkipsTo.scalar hlength fun fuel brackets => ?_
    rw [skipFrom, hstart, hcs]
    change (Json.skipString inner >>= fun cs => skipFrom fuel brackets .after cs) = _
    rw [hstring.skipString]
    rfl
  | .array entries, ⟨inner, hcs, hentries⟩ =>
    refine (Values.Spans.skipsTo entries hentries).step ?_ fun fuel brackets => ?_
    · rw [hcs, List.length_cons] at hle
      simp only [SkipState.within, SkipState.fuel, if_pos]
      omega
    · rw [List.nil_append, skipFrom, hstart, hcs]
      rfl
  | .object members, ⟨inner, hcs, hmembers⟩ =>
    refine (ObjectMembers.Spans.skipsTo members hmembers).step ?_ fun fuel brackets => ?_
    · rw [hcs, List.length_cons] at hle
      simp only [SkipState.within, SkipState.fuel, if_pos]
      omega
    · rw [List.nil_append, skipFrom, hstart, hcs]
      rfl

/-- **The rest of an array** is skipped up to its closing bracket. -/
theorem Values.Spans.skipsTo (vs : Values) {first : Bool} {cs rest : List Char}
    (h : vs.Spans first cs rest) : SkipsTo [.list] (.within first) cs rest := by
  match vs, h with
  | .nil, h => exact SkipsTo.closing h
  | .cons v vs, ⟨before, after, hbefore, hv, hvs⟩ =>
    obtain ⟨c, next, rfl, hc⟩ := hv.begins
    refine SkipsTo.value hbefore (Value.mayBegin_other hc).2.1 fun key hkey =>
      ⟨key, rfl, Nat.le_refl _, ?_⟩
    exact (Value.Spans.skipsTo v hkey hv hvs.numberEnds).trans (Values.Spans.skipsTo vs hvs)

/-- **The rest of an object** is skipped up to its closing brace. -/
theorem ObjectMembers.Spans.skipsTo (members : ObjectMembers) {first : Bool} {cs rest : List Char}
    (h : members.Spans first cs rest) : SkipsTo [.object] (.within first) cs rest := by
  match members, h with
  | .nil, h => exact SkipsTo.closing h
  | .cons name v members, ⟨before, after, hbefore, hv, hmembers⟩ =>
    obtain ⟨key, colon, start, hsep, ⟨inner, rfl, hstring⟩, hcolon, hstart⟩ := hbefore
    -- What stands before the value is its name and a colon.
    refine SkipsTo.value hsep (by decide) fun key hkey => ⟨start, ?_, ?_, ?_⟩
    · exact skipName_object hkey ⟨inner, rfl, hstring⟩ hcolon
    · have hkeyLength := length_lt_of_skipSpace hkey
      have hnameLength := hstring.length_lt
      have hcolonLength := length_lt_of_skipSpace hcolon
      omega
    · exact (Value.Spans.skipsTo v hstart hv hmembers.numberEnds).trans
        (ObjectMembers.Spans.skipsTo members hmembers)
end

/-- **Skipping a value** leaves the text after it. -/
theorem Value.Spans.skipValue {v : Value} {start : List Char} (hstart : Json.skipSpace start = cs)
    (h : v.Spans cs rest) (hrest : NumberEnds rest) : Json.skipValue start = .ok rest := by
  -- There is fuel for two steps on each character.
  have hfuel : SkipState.before.fuel start ≤ 2 * start.length + 2 := Nat.le_succ _
  obtain ⟨left, hleft, hrun⟩ := Value.Spans.skipsTo v hstart h hrest _ hfuel
  obtain ⟨left, rfl⟩ := Nat.exists_eq_add_one_of_ne_zero (Nat.ne_zero_of_lt hleft)
  exact hrun []

end SchemaDiagram.Json
