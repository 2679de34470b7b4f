import SchemaDiagram.Json.Grammar
import SchemaDiagram.Proofs.JsonText
import SchemaDiagram.Proofs.Results

/-!
# Scanning by the grammar

The scanners of a JSON text against its grammar, however a text is laid out.

* `StringSpan.scanString`: a string is read as the characters that it spells. Only a loose one may
  be refused, which has half a surrogate pair in it;
* `Literal.scanNumber_integer`: what is read as a whole number has neither fraction nor exponent;
* `Value.Spans.begins`, `Value.Spans.length_lt`: a value begins with a character of its kind, and
  takes up part of the text.

Numbers are the only values whose end does not show in themselves. So what is said about a value
needs `NumberEnds` of what follows it; within arrays and objects this comes from the grammar.
-/

namespace SchemaDiagram.Json

variable {loose first : Bool} {c : Char} {s read cs next rest : List Char}

/-! ### Strings -/

/-- The letter `u` is no escape of its own: it begins an escape by number. -/
theorem letterEscape?_ne_u {letter : Char} (h : letterEscape? letter = some c) : letter ≠ 'u' := by
  rintro rfl
  cases h

/-- What an escape by number comes to: half of a pair by itself is refused or completed, and any
other number is a character. -/
theorem scanEscape_code {a b c d : Char} {n : Nat} (h : hexNumber4? a b c d = some n) :
    scanEscape ('u' :: a :: b :: c :: d :: rest) =
      if isTrailing n then .error (.malformed .loneSurrogate)
      else if isLeading n then scanTrailing n rest
      else .ok (Char.ofNat n, rest) := by
  have hfour : scanHex4 (a :: b :: c :: d :: rest) = .ok (n, rest) := scanHex4_ok h
  rw [scanEscape, scanCodePoint, hfour]
  rfl

/-- **One character of a string,** however it is spelled, is read. -/
theorem CharSpan.scanString (h : CharSpan c cs next) :
    Json.scanString read cs = Json.scanString (c :: read) next := by
  cases h with
  | plain _ _ control quote backslash =>
    rw [Json.scanString]
    · exact if_neg control
    · exact quote
    · exact backslash
  | letter _ letter _ escape =>
    exact scanString_escape (scanEscape_letter (letterEscape?_ne_u escape) escape)
  | code n _ _ _ _ _ digits leading trailing =>
    refine scanString_escape ?_
    rw [scanEscape_code digits, if_neg trailing, if_neg leading]
  | pair n m _ _ _ _ _ _ _ _ _ digits leading digits' trailing =>
    -- A first half is no second half, since their ranges are apart.
    have hfirst : ¬isTrailing n := by
      simp only [isLeading, isTrailing, Bool.and_eq_true, decide_eq_true_eq] at leading ⊢
      omega
    refine scanString_escape ?_
    rw [scanEscape_code digits, if_neg hfirst, if_pos leading, scanTrailing, scanHex4_ok digits']
    exact if_pos trailing

/-- An escape by number is skipped, whatever number it has. -/
theorem skipString_code {a b c d : Char} {n : Nat} (h : hexNumber4? a b c d = some n) :
    skipString ('\\' :: 'u' :: a :: b :: c :: d :: rest) = skipString rest := by
  have hfour : scanHex4 (a :: b :: c :: d :: rest) = .ok (n, rest) := scanHex4_ok h
  rw [skipString]
  split
  -- The four digits are there, so the scan of them does not fail.
  · next e he =>
    rw [hfour] at he
    cases he
  · next m rest' hok =>
    rw [hfour] at hok
    obtain ⟨-, rfl⟩ : n = m ∧ rest = rest' := by simpa using hok
    rfl

/-- **One character of a string** is skipped in one go, however it is spelled. -/
theorem CharSpan.skipString (h : CharSpan c cs next) :
    Json.skipString cs = Json.skipString next := by
  cases h with
  | plain _ _ control quote backslash =>
    rw [Json.skipString]
    · exact if_neg control
    · exact quote
    · rintro _ rfl
      exact absurd rfl backslash
    · rintro rfl
      exact absurd rfl backslash
    · rintro _ _ rfl
      exact absurd rfl backslash
  | letter _ letter _ escape =>
    rw [Json.skipString]
    · exact if_pos (by rw [escape]; rfl)
    · rintro rfl
      exact letterEscape?_ne_u escape rfl
  | code n _ _ _ _ _ digits => exact skipString_code digits
  -- Each half is an escape of its own to the one who skips.
  | pair n m _ _ _ _ _ _ _ _ _ digits _ digits' =>
    rw [skipString_code digits, skipString_code digits']

/-- A character takes up part of the text. -/
theorem CharSpan.length_lt (h : CharSpan c cs next) : next.length < cs.length := by
  cases h <;> simp only [List.length_cons] <;> omega

/-- The second half of a pair can be read only where it is written. -/
theorem beginsTrailing_of_scanTrailing {n : Nat} (h : scanTrailing n cs = .ok (c, next)) :
    BeginsTrailing cs := by
  unfold scanTrailing at h
  split at h
  · next tail =>
    obtain ⟨⟨m, after⟩, hfour, h⟩ := bind_eq_ok.1 h
    by_cases trailing : isTrailing m
    · unfold scanHex4 at hfour
      split at hfour
      · next a b c d cs =>
        split at hfour
        · next digits =>
          obtain ⟨rfl, -⟩ : _ = m ∧ cs = after := by simpa using hfour
          exact ⟨a, b, c, d, cs, _, rfl, digits, trailing⟩
        · cases hfour
      · cases hfour
    · exact absurd ((if_neg trailing).symm.trans h) throw_ne_ok
  -- Without a backslash and a `u`, there is no second half.
  all_goals cases h

/-- **A string** is read as what it spells; only a loose one may be refused. -/
theorem StringSpan.scanString (h : StringSpan loose s cs rest) : ∀ read,
    Json.scanString read cs = .ok (String.ofList (read.reverse ++ s), rest) ∨
      loose ∧ IsError (Json.scanString read cs) := by
  -- By the spelling: the end, a character more, or half of a pair that stands alone.
  induction h with
  | close rest =>
    intro read
    rw [Json.scanString, List.append_nil]
    exact .inl rfl
  | @char c s _ _ _ first others ih =>
    intro read
    have htext : (c :: read).reverse ++ s = read.reverse ++ c :: s := by
      rw [List.reverse_cons, List.append_assoc, List.singleton_append]
    rw [first.scanString, ← htext]
    exact ih (c :: read)
  | @half n a b c d s next rest isLoose digits surrogate alone others ih =>
    intro read
    refine .inr ⟨isLoose, ?_⟩
    -- The half that stands alone is noticed at once.
    have hescape : IsError (scanEscape ('u' :: a :: b :: c :: d :: next)) := by
      rw [scanEscape_code digits]
      by_cases trailing : isTrailing n
      · rw [if_pos trailing]
        exact isError_error _
      · have leading : isLeading n := surrogate.resolve_right trailing
        rw [if_neg trailing, if_pos leading]
        cases hscan : scanTrailing n next with
        | error e => exact isError_error e
        | ok r => exact absurd (beginsTrailing_of_scanTrailing hscan) (alone leading)
    obtain ⟨e, he⟩ := hescape
    rw [Json.scanString]
    split
    · exact isError_error _
    · next hok =>
      rw [he] at hok
      cases hok

/-- **A string** is skipped to its end, also where a loose one has half of a pair in it. -/
theorem StringSpan.skipString (h : StringSpan loose s cs rest) : Json.skipString cs = .ok rest := by
  induction h with
  | close rest => rw [Json.skipString]
  | char first _ ih => rw [first.skipString, ih]
  | half _ digits _ _ _ ih => rw [skipString_code digits, ih]

/-- A string takes up part of the text, if only its closing quote. -/
theorem StringSpan.length_lt (h : StringSpan loose s cs rest) : rest.length < cs.length := by
  induction h with
  | close rest => exact Nat.lt_add_one _
  | char first _ ih => exact Nat.lt_trans ih first.length_lt
  | half _ _ _ _ _ ih =>
    simp only [List.length_cons]
    omega

/-- A text takes up part of what it is read from, with both its quotes. -/
theorem TextSpan.length_lt {text : String} (h : TextSpan loose text cs rest) :
    rest.length < cs.length := by
  obtain ⟨inner, rfl, h⟩ := h
  exact Nat.lt_trans h.length_lt (Nat.lt_add_one _)

/-! ### Numbers -/

/-- Digits are skipped up to what is no digit. -/
theorem skipDigits_append {digits : List Char} (hne : digits ≠ [])
    (hdigits : ∀ c ∈ digits, c.isDigit) (hrest : ∀ c ∈ rest.head?, ¬c.isDigit) :
    skipDigits (digits ++ rest) = .ok rest := by
  obtain ⟨c, cs, rfl⟩ := List.exists_cons_of_ne_nil hne
  have hdrop := (takeWhile_digits (fun c hc => hdigits c (List.mem_cons_of_mem _ hc)) hrest).2
  rw [List.cons_append, skipDigits, if_pos (hdigits c List.mem_cons_self), hdrop]

namespace Literal

variable (l : Literal)

/-- The exponent of a literal is left out, or begins with its letter. -/
theorem exponentText_begins : l.exponentText = [] ∧ l.exponent = none ∨
    ∃ c cs, l.exponentText = c :: cs ∧ (c = 'e' ∨ c = 'E') := by
  cases h : l.exponent with
  | none => exact .inl ⟨by rw [exponentText, h, Option.elim_none], rfl⟩
  | some part =>
    obtain ⟨mark, digits⟩ := part
    have hmark := (l.exponent_parts mark digits h).1
    rw [exponentText, h, Option.elim_some]
    simp only [exponentMarks, List.mem_cons, List.not_mem_nil, or_false] at hmark
    rcases hmark with rfl | rfl | rfl | rfl | rfl | rfl <;>
      exact .inr ⟨_, _, rfl, by decide⟩

/-- The fraction of a literal is left out, or begins with its point. -/
theorem fractionText_begins : l.fractionText = [] ∧ l.fraction = [] ∨
    l.fraction ≠ [] ∧ l.fractionText = '.' :: l.fraction := by
  by_cases h : l.fraction = []
  · exact .inl ⟨if_pos h, h⟩
  · exact .inr ⟨h, if_neg h⟩

/-- What follows the digits of a fraction. -/
theorem head?_exponentText (hrest : NumberEnds rest) :
    ∀ c ∈ (l.exponentText ++ rest).head?, ¬c.isDigit ∧ c ≠ '.' := by
  intro c hc
  obtain ⟨h, -⟩ | ⟨c', cs, h, hletter⟩ := l.exponentText_begins
  · rw [h, List.nil_append] at hc
    obtain ⟨hdigit, hpoint, -⟩ := hrest c hc
    exact ⟨by simp [hdigit], hpoint⟩
  · rw [h, List.cons_append, List.head?_cons] at hc
    obtain rfl : c' = c := Option.some.inj hc
    rcases hletter with rfl | rfl <;> decide

/-- What follows the digits before the point. -/
theorem head?_fractionText (hrest : NumberEnds rest) :
    ∀ c ∈ (l.fractionText ++ (l.exponentText ++ rest)).head?, ¬c.isDigit := by
  intro c hc
  obtain ⟨h, -⟩ | ⟨-, h⟩ := l.fractionText_begins
  · rw [h, List.nil_append] at hc
    exact (l.head?_exponentText hrest c hc).1
  · rw [h, List.cons_append, List.head?_cons] at hc
    obtain rfl : '.' = c := Option.some.inj hc
    decide

/-- Without a sign the digits follow the letter at once. -/
theorem skipExponent_unsigned {digits : List Char} (hc : c = 'e' ∨ c = 'E') (hne : digits ≠ [])
    (hdigits : ∀ c ∈ digits, c.isDigit) (hskip : skipDigits (digits ++ rest) = .ok rest) :
    Json.skipExponent (c :: (digits ++ rest)) = .ok rest := by
  obtain ⟨d, ds, rfl⟩ := List.exists_cons_of_ne_nil hne
  have hd := hdigits d List.mem_cons_self
  have hplus : d ≠ '+' := by
    rintro rfl
    exact absurd hd (by decide)
  have hminus : d ≠ '-' := by
    rintro rfl
    exact absurd hd (by decide)
  rw [List.cons_append] at hskip ⊢
  rcases hc with rfl | rfl
  all_goals
    rw [Json.skipExponent]
    · exact hskip
    · exact fun cs heq => hplus (List.cons.inj heq).1
    · exact fun cs heq => hminus (List.cons.inj heq).1

/-- The exponent is skipped, or its absence noticed. -/
theorem skipExponent (hrest : NumberEnds rest) :
    Json.skipExponent (l.exponentText ++ rest) = .ok rest := by
  have hends : ∀ c ∈ rest.head?, ¬c.isDigit := fun c hc => by simp [(hrest c hc).1]
  cases h : l.exponent with
  | none =>
    -- What follows the number begins with neither of the letters.
    rw [exponentText, h, Option.elim_none, List.nil_append, Json.skipExponent]
    · rintro cs rfl
      exact (hrest _ rfl).2.2.1 rfl
    · rintro cs rfl
      exact (hrest _ rfl).2.2.2 rfl
  | some part =>
    obtain ⟨mark, digits⟩ := part
    obtain ⟨hmark, hne, hdigits⟩ := l.exponent_parts mark digits h
    have hskip := skipDigits_append hne hdigits hends
    rw [exponentText, h, Option.elim_some, List.append_assoc]
    simp only [exponentMarks, List.mem_cons, List.not_mem_nil, or_false] at hmark
    -- Two marks have no sign; behind the signs of the other four the digits follow as they are.
    rcases hmark with rfl | rfl | rfl | rfl | rfl | rfl
    · exact skipExponent_unsigned (.inl rfl) hne hdigits hskip
    · exact skipExponent_unsigned (.inr rfl) hne hdigits hskip
    all_goals exact hskip

/-- The fraction is skipped with the exponent, or its absence noticed. -/
theorem skipFraction (hrest : NumberEnds rest) :
    Json.skipFraction (l.fractionText ++ (l.exponentText ++ rest)) = .ok rest := by
  obtain ⟨h, -⟩ | ⟨hne, h⟩ := l.fractionText_begins
  · rw [h, List.nil_append, Json.skipFraction]
    · exact l.skipExponent hrest
    -- Without a fraction there is no point to begin one.
    · intro cs heq
      have := l.head?_exponentText hrest '.'
      rw [heq] at this
      exact (this rfl).2 rfl
  · have hdigits := skipDigits_append hne l.fraction_digits
      fun c hc => (l.head?_exponentText hrest c hc).1
    rw [h, List.cons_append, Json.skipFraction, hdigits]
    exact l.skipExponent hrest

/-- **A number** is skipped to its end. -/
theorem skipNumber (hrest : NumberEnds rest) :
    Json.skipNumber (l.whole ++ (l.fractionText ++ (l.exponentText ++ rest))) = .ok rest := by
  have hends := l.head?_fractionText hrest
  have hfraction := l.skipFraction hrest
  have hdigits := skipDigits_append l.whole_ne_nil l.whole_digits hends
  generalize l.fractionText ++ (l.exponentText ++ rest) = after at *
  unfold Json.skipNumber
  split
  · next c cs heq =>
    -- The zero is the only digit before the point.
    have hwhole : l.whole = ['0'] := by
      obtain ⟨d, ds, hds⟩ := List.exists_cons_of_ne_nil l.whole_ne_nil
      rw [hds, List.cons_append] at heq
      exact l.no_leading_zero (by rw [hds, (List.cons.inj heq).1]; rfl)
    rw [hwhole] at heq
    obtain rfl : after = c :: cs := (List.cons.inj heq).2
    rw [if_neg (hends c rfl), hfraction]
  · -- Digits other than a single zero are skipped together.
    rw [hdigits]
    exact hfraction

end Literal

/-! #### Whole numbers -/

/-- A number that is scaled is not read as a whole one. -/
theorem scanScaled_not_integer {negative : Bool} {significand : Nat} {exponent n : Int} :
    scanScaled negative significand exponent cs ≠ .ok (.integer n, next) := by
  -- The number is made of a double in either case.
  have hfloat : ∀ exponent after, (floatOf negative significand exponent >>= fun number =>
      (.ok (number, after) : Except Error (Number × List Char))) ≠ .ok (.integer n, next) := by
    intro exponent after h
    obtain ⟨number, hnumber, h⟩ := bind_eq_ok.1 h
    obtain ⟨x, -, hx⟩ := bind_eq_ok.1 hnumber
    obtain rfl : Number.float _ = number := Except.ok.inj hx
    cases h
  intro h
  -- With an exponent of either letter, or without one.
  unfold scanScaled at h
  split at h
  · obtain ⟨⟨more, after⟩, -, h⟩ := bind_eq_ok.1 h
    exact hfloat _ _ h
  · obtain ⟨⟨more, after⟩, -, h⟩ := bind_eq_ok.1 h
    exact hfloat _ _ h
  · exact hfloat _ _ h

/-- A number with a fraction is not read as a whole one. -/
theorem scanFraction_not_integer {negative : Bool} {significand : Nat} {exponent n : Int} :
    scanFraction negative significand exponent cs ≠ .ok (.integer n, next) := by
  intro h
  unfold scanFraction at h
  dsimp only at h
  split at h
  · cases h
  · exact scanScaled_not_integer h

/-- Digits all of which are taken make up the significand. -/
theorem eq_ofDigitChars_of_takeDigits {digits : List Char} {significand n : Nat}
    (h : takeDigits significand digits = (n, [])) : n = Nat.ofDigitChars 10 digits significand := by
  induction digits generalizing significand with
  | nil => exact (Prod.mk.inj h).1.symm
  | cons c digits ih =>
    rw [takeDigits] at h
    split at h
    · rw [Nat.ofDigitChars_cons]
      exact ih h
    · cases h

/-- A whole number has the sign and the digits that were read. -/
theorem eq_of_wholeNumber {negative : Bool} {significand : Nat} {n : Int}
    (h : wholeNumber negative significand = .integer n) :
    (if negative then -(significand : Int) else significand) = n := by
  unfold wholeNumber at h
  cases negative with
  | false => exact Number.integer.inj h
  | true =>
    rw [if_neg (by decide)] at h
    split at h
    · exact Number.integer.inj h
    · cases h

/-- **What is read as a whole number** is written with digits only, and is their number. -/
theorem Literal.scanNumber_integer (l : Literal) {n : Int} (hrest : NumberEnds rest)
    (h : scanNumber l.negative (l.whole ++ (l.fractionText ++ (l.exponentText ++ rest))) =
      .ok (.integer n, next)) :
    next = rest ∧ n = l.significand ∧ l.power = 0 := by
  rw [scanNumber_digits l.whole_ne_nil l.whole_digits l.no_leading_zero
    (l.head?_fractionText hrest), scanDigits] at h
  obtain ⟨hnil, hfraction⟩ | ⟨-, hpoint⟩ := l.fractionText_begins
  · obtain ⟨hnil', hexponent⟩ | ⟨c, cs, hletter, hc⟩ := l.exponentText_begins
    · -- Digits only: as long as all of them are taken, their number is read.
      rw [hnil, hnil', List.nil_append, List.nil_append] at h
      cases htake : takeDigits 0 l.whole with
      | mk total left =>
        rw [htake] at h
        dsimp only at h
        split at h
        · exact absurd h scanFraction_not_integer
        · exact absurd h scanScaled_not_integer
        · exact absurd h scanScaled_not_integer
        · split at h
          · next hempty =>
            obtain rfl : left = [] := List.isEmpty_iff.1 hempty
            obtain ⟨hnumber, rfl⟩ :
                wholeNumber l.negative total = .integer n ∧ rest = next := by
              simpa using h
            have hpower : l.power = 0 := by
              rw [power, hexponent, hfraction]
              rfl
            refine ⟨rfl, ?_, hpower⟩
            rw [significand, hfraction, List.append_nil, ← eq_ofDigitChars_of_takeDigits htake]
            exact (eq_of_wholeNumber hnumber).symm
          · exact absurd h scanScaled_not_integer
    · -- With an exponent the number is scaled, which gives a double.
      rw [hnil, hletter, List.nil_append, List.cons_append] at h
      rcases hc with rfl | rfl
      · exact absurd h scanScaled_not_integer
      · exact absurd h scanScaled_not_integer
  · -- With a point there is a fraction, and the number is no whole one.
    rw [hpoint, List.cons_append] at h
    exact absurd h scanFraction_not_integer

/-! ### Where values begin and end -/

/-- The characters with which a value may begin. -/
def Value.mayBegin : Value → Char → Bool
  | .null, c => c = 'n'
  | .bool true, c => c = 't'
  | .bool false, c => c = 'f'
  | .number _ _, c => c = '-' || c.isDigit
  | .string _, c => c = '"'
  | .array _, c => c = '['
  | .object _, c => c = '\x7b'

/-- A number begins with its sign or a digit. -/
theorem Literal.text_eq (l : Literal) : l.text =
    if l.negative then '-' :: (l.whole ++ (l.fractionText ++ l.exponentText))
    else l.whole ++ (l.fractionText ++ l.exponentText) := by
  rw [text, signText]
  split <;> rfl

/-- A literal begins with a minus or a digit. -/
theorem Literal.text_begins (l : Literal) :
    ∃ c after, l.text = c :: after ∧ (c = '-' ∨ c.isDigit) := by
  obtain ⟨c, cs, hwhole⟩ := List.exists_cons_of_ne_nil l.whole_ne_nil
  rw [l.text_eq]
  split
  · exact ⟨'-', _, rfl, .inl rfl⟩
  · rw [hwhole, List.cons_append]
    exact ⟨c, _, rfl, .inr (l.whole_digits c (hwhole ▸ List.mem_cons_self))⟩

/-- **A value begins** with a character of its kind. -/
theorem Value.Spans.begins {v : Value} (h : v.Spans cs rest) :
    ∃ c after, cs = c :: after ∧ v.mayBegin c := by
  cases v with
  | null => exact ⟨'n', _, h, rfl⟩
  | bool b =>
    cases b with
    | false => exact ⟨'f', _, h, rfl⟩
    | true => exact ⟨'t', _, h, rfl⟩
  -- Numbers are spelled by a literal, which begins with its sign or a digit.
  | number significand exponent =>
    obtain ⟨l, rfl, -⟩ := h
    obtain ⟨c, after, htext, hc⟩ := l.text_begins
    rw [htext, List.cons_append]
    exact ⟨c, _, rfl, by rw [mayBegin, Bool.or_eq_true, decide_eq_true_eq]; exact hc⟩
  | string text =>
    obtain ⟨inner, rfl, -⟩ := h
    exact ⟨'"', _, rfl, rfl⟩
  | array entries =>
    obtain ⟨inner, rfl, -⟩ := h
    exact ⟨'[', _, rfl, rfl⟩
  | object members =>
    obtain ⟨inner, rfl, -⟩ := h
    exact ⟨'\x7b', _, rfl, rfl⟩

/-- A value begins neither with white space nor with a bracket that closes. -/
theorem Value.mayBegin_other {v : Value} (h : v.mayBegin c) :
    isSpace c = false ∧ c ≠ ']' ∧ c ≠ '\x7d' := by
  have hother : ∀ c' : Char, (isSpace c' = false ∧ c' ≠ ']' ∧ c' ≠ '\x7d') →
      decide (c = c') = true → isSpace c = false ∧ c ≠ ']' ∧ c ≠ '\x7d' := by
    intro c' hc' heq
    rwa [of_decide_eq_true heq]
  cases v with
  | null => exact hother 'n' (by decide) h
  | bool b => cases b with
    | false => exact hother 'f' (by decide) h
    | true => exact hother 't' (by decide) h
  | number significand exponent =>
    rw [mayBegin, Bool.or_eq_true] at h
    rcases h with h | h
    · exact hother '-' (by decide) h
    · obtain ⟨hspace, hbracket, -⟩ := isDigit_begins h
      refine ⟨hspace, hbracket, ?_⟩
      rintro rfl
      exact absurd h (by decide)
  | string text => exact hother '"' (by decide) h
  | array entries => exact hother '[' (by decide) h
  | object members => exact hother '\x7b' (by decide) h

/-- No white space stands before a value. -/
theorem Value.Spans.skipSpace {v : Value} (h : v.Spans cs rest) : Json.skipSpace cs = cs := by
  obtain ⟨c, after, rfl, hc⟩ := h.begins
  exact skipSpace_cons (mayBegin_other hc).1

/-- What follows an entry of an array. -/
theorem Values.Spans.numberEnds : ∀ {vs : Values}, vs.Spans false cs rest → NumberEnds cs
  | .nil, h => numberEnds_of_skipSpace (by
      rw [show Json.skipSpace cs = ']' :: rest from h]
      exact NumberEnds.cons (by decide) _)
  | .cons _ _, ⟨_, _, ⟨_, hcomma, _⟩, _⟩ => numberEnds_of_skipSpace (by
      rw [hcomma]
      exact NumberEnds.cons (by decide) _)

/-- What follows a member of an object. -/
theorem ObjectMembers.Spans.numberEnds :
    ∀ {members : ObjectMembers}, members.Spans false cs rest → NumberEnds cs
  | .nil, h => numberEnds_of_skipSpace (by
      rw [show Json.skipSpace cs = '\x7d' :: rest from h]
      exact NumberEnds.cons (by decide) _)
  | .cons _ _ _, ⟨_, _, ⟨_, _, _, ⟨_, hcomma, _⟩, _⟩, _⟩ => numberEnds_of_skipSpace (by
      rw [hcomma]
      exact NumberEnds.cons (by decide) _)

/-! ### Lengths -/

/-- White space takes nothing but itself from the text. -/
theorem skipSpace_length_le (cs : List Char) : (Json.skipSpace cs).length ≤ cs.length :=
  (List.dropWhile_sublist _).length_le

/-- A character that is found behind white space takes up part of the text. -/
theorem length_lt_of_skipSpace (h : Json.skipSpace cs = c :: rest) : rest.length < cs.length := by
  have := skipSpace_length_le cs
  rw [h, List.length_cons] at this
  exact this

/-- What separates two entries does not make the text longer. -/
theorem Separated.length_le (h : Separated first cs rest) : rest.length ≤ cs.length := by
  cases first with
  | true =>
    rw [← show Json.skipSpace cs = rest from h]
    exact skipSpace_length_le cs
  | false =>
    obtain ⟨after, hcomma, rfl⟩ := h
    exact Nat.le_trans (skipSpace_length_le after) (Nat.le_of_lt (length_lt_of_skipSpace hcomma))

/-- The name of a member with its colon takes up part of the text. -/
theorem MemberSpan.length_lt {name : String} (h : MemberSpan loose first name cs rest) :
    rest.length < cs.length := by
  obtain ⟨key, colon, after, hkey, htext, hcolon, rfl⟩ := h
  have hkeyLength := hkey.length_le
  have hnameLength := htext.length_lt
  have hcolonLength := length_lt_of_skipSpace hcolon
  have hspaceLength := skipSpace_length_le after
  omega

mutual
/-- **A value takes up part of the text.** -/
theorem Value.Spans.length_lt : ∀ (v : Value) {cs rest : List Char}, v.Spans cs rest →
    rest.length < cs.length
  | .null, _, _, rfl => by
    simp only [List.length_cons]
    omega
  | .bool true, _, _, rfl => by
    simp only [List.length_cons]
    omega
  | .bool false, _, _, rfl => by
    simp only [List.length_cons]
    omega
  | .number _ _, _, _, ⟨l, rfl, _⟩ => by
    obtain ⟨c, after, htext, -⟩ := l.text_begins
    rw [htext, List.length_append, List.length_cons]
    omega
  | .string _, _, _, h => TextSpan.length_lt h
  | .array entries, _, _, ⟨_, rfl, h⟩ =>
    Nat.lt_trans (Values.Spans.length_lt entries h) (Nat.lt_add_one _)
  | .object members, _, _, ⟨_, rfl, h⟩ =>
    Nat.lt_trans (ObjectMembers.Spans.length_lt members h) (Nat.lt_add_one _)

/-- Entries take up part of the text, at least their closing bracket. -/
theorem Values.Spans.length_lt : ∀ (vs : Values) {first : Bool} {cs rest : List Char},
    vs.Spans first cs rest → rest.length < cs.length
  | .nil, _, _, _, h => length_lt_of_skipSpace h
  | .cons v vs, _, _, _, ⟨_, _, hbefore, hv, hvs⟩ =>
    Nat.lt_of_lt_of_le (Nat.lt_trans (Values.Spans.length_lt vs hvs) (Value.Spans.length_lt v hv))
      hbefore.length_le

/-- Members take up part of the text, at least their closing brace. -/
theorem ObjectMembers.Spans.length_lt : ∀ (members : ObjectMembers) {first : Bool}
    {cs rest : List Char}, members.Spans first cs rest → rest.length < cs.length
  | .nil, _, _, _, h => length_lt_of_skipSpace h
  | .cons _ v members, _, _, _, ⟨_, _, hbefore, hv, hmembers⟩ =>
    Nat.lt_trans (Nat.lt_trans (ObjectMembers.Spans.length_lt members hmembers)
      (Value.Spans.length_lt v hv)) hbefore.length_lt
end

end SchemaDiagram.Json
