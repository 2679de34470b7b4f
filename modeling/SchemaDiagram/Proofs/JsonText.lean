import SchemaDiagram.Json.Scan

/-!
# Scanning the parts of a JSON text

What the scanners make of white space, of escapes and of digits.

* `skipSpace_cons`, `skipSpace_skipSpace`: the white space between two parts is passed over once;
* `scanString_escape`: an escape within a string;
* `scanNumber_digits`, `scanNumber_toDigits`: the digits of a number are taken together, and a
  number below `2 ^ 64` is read back if what follows it cannot belong to a number (`NumberEnds`).
-/

namespace SchemaDiagram.Json

/-! ### White space -/

/-- No white space is passed over where none stands. -/
theorem skipSpace_cons {c : Char} {cs : List Char} (h : isSpace c = false) :
    skipSpace (c :: cs) = c :: cs := by
  rw [skipSpace, List.dropWhile_cons_of_neg (by rw [h]; exact Bool.false_ne_true)]

/-- White space is passed over once and for all. -/
@[simp] theorem skipSpace_skipSpace (cs : List Char) : skipSpace (skipSpace cs) = skipSpace cs := by
  induction cs with
  | nil => rfl
  | cons c cs ih =>
    by_cases h : isSpace c
    · have hcons : skipSpace (c :: cs) = skipSpace cs := List.dropWhile_cons_of_pos h
      rw [hcons, ih]
    · have hcons : skipSpace (c :: cs) = c :: cs := skipSpace_cons (Bool.eq_false_iff.2 h)
      rw [hcons, hcons]

/-! ### Strings -/

variable {read : List Char} {c : Char} {cs rest : List Char}

/-- An escape within a string is read as one character. -/
theorem scanString_escape (h : scanEscape cs = .ok (c, rest)) :
    scanString read ('\\' :: cs) = scanString (c :: read) rest := by
  rw [scanString]
  split
  · next e he =>
    rw [h] at he
    exact absurd he (by simp)
  · next c' rest' hok =>
    rw [h] at hok
    obtain ⟨rfl, rfl⟩ : c = c' ∧ rest = rest' := by simpa using hok
    rfl

/-- An escape by a letter is the character that the letter stands for. -/
theorem scanEscape_letter {letter : Char} (hu : letter ≠ 'u') (h : letterEscape? letter = some c) :
    scanEscape (letter :: rest) = .ok (c, rest) := by
  rw [scanEscape]
  · rw [h]
  · exact hu

/-- Four hexadecimal digits are read as their number. -/
theorem scanHex4_ok {c₁ c₂ c₃ c₄ : Char} {n : Nat}
    (h : Text.hexNumber? [c₁, c₂, c₃, c₄] = some n) :
    scanHex4 (c₁ :: c₂ :: c₃ :: c₄ :: rest) = .ok (n, rest) := by
  rw [scanHex4, h]

/-! ### Numbers -/

/-- The text does not go on with what could belong to a number before it. -/
def NumberEnds (cs : List Char) : Prop :=
  ∀ c ∈ cs.head?, c.isDigit = false ∧ c ≠ '.' ∧ c ≠ 'e' ∧ c ≠ 'E'

/-- A number ends before a character that cannot belong to it. -/
theorem NumberEnds.cons (h : c.isDigit = false ∧ c ≠ '.' ∧ c ≠ 'e' ∧ c ≠ 'E') (cs : List Char) :
    NumberEnds (c :: cs) := by
  rintro c' ⟨rfl⟩
  exact h

/-- White space ends a number, and so does what ends one after white space. -/
theorem numberEnds_of_skipSpace (h : NumberEnds (skipSpace cs)) : NumberEnds cs := by
  cases cs with
  | nil => exact h
  | cons c cs =>
    by_cases hspace : isSpace c
    · -- White space of the first character is one of four.
      refine NumberEnds.cons ?_ cs
      simp only [isSpace, Bool.or_eq_true, decide_eq_true_eq] at hspace
      rcases hspace with ((rfl | rfl) | rfl) | rfl <;> decide
    · rwa [skipSpace_cons (Bool.eq_false_iff.2 hspace)] at h

/-- Digits are taken as long as their value fits. -/
theorem takeDigits_eq {digits : List Char} {significand : Nat}
    (h : Nat.ofDigitChars 10 digits significand ≤ maxSignificand) :
    takeDigits significand digits = (Nat.ofDigitChars 10 digits significand, []) := by
  -- By the digits, for every number that has been read of them before.
  induction digits generalizing significand with
  | nil => rw [takeDigits, Nat.ofDigitChars_nil]
  | cons c digits ih =>
    rw [Nat.ofDigitChars_cons] at h ⊢
    -- The digits to come only multiply the number that has been read so far.
    have hnext : 10 * significand + digitValue c ≤ maxSignificand := by
      rw [Nat.ofDigitChars_eq_ofDigitChars_zero] at h
      calc 10 * significand + digitValue c
          ≤ 10 ^ digits.length * (10 * significand + digitValue c) :=
            Nat.le_mul_of_pos_left _ (Nat.pow_pos (by decide))
        _ ≤ _ := Nat.le_add_right _ _
        _ ≤ maxSignificand := h
    rw [takeDigits]
    exact (if_pos hnext).trans (ih h)

/-- The first digit of a number. -/
theorem toDigits_begins (n : Nat) : ∃ c digits, Nat.toDigits 10 n = c :: digits ∧ c.isDigit := by
  obtain ⟨c, digits, hdigits⟩ := List.exists_cons_of_ne_nil
    (Nat.toDigits_ne_nil (n := n) (b := 10))
  exact ⟨c, digits, hdigits, Nat.isDigit_of_mem_toDigits (by decide) (by decide)
    (hdigits ▸ List.mem_cons_self)⟩

/-- Only zero is written with a leading zero. -/
theorem eq_zero_of_toDigits {n : Nat} {digits : List Char}
    (h : Nat.toDigits 10 n = '0' :: digits) : n = 0 ∧ digits = [] := by
  induction n using Nat.strongRecOn generalizing digits with
  | ind n ih =>
    rw [Nat.toDigits_eq_if (by decide)] at h
    split at h
    · next hn =>
      obtain ⟨hchar, hnil⟩ := List.cons.inj h
      have hzero : ∀ m < 10, Nat.digitChar m = '0' → m = 0 := by decide
      exact ⟨hzero n hn hchar, hnil.symm⟩
    · next hn =>
      -- The first digit is that of a tenth of the number, which would be zero as well.
      obtain ⟨c, cs, hcs⟩ := List.exists_cons_of_ne_nil
        (Nat.toDigits_ne_nil (n := n / 10) (b := 10))
      rw [hcs, List.cons_append] at h
      obtain ⟨rfl, -⟩ := List.cons.inj h
      have := (ih (n / 10) (by omega) hcs).1
      omega

/-- A number that is written with a leading zero is zero. -/
theorem head?_toDigits {n : Nat} (h : (Nat.toDigits 10 n).head? = some '0') :
    Nat.toDigits 10 n = ['0'] := by
  obtain ⟨cs, hcs⟩ := List.head?_eq_some_iff.1 h
  rw [hcs, (eq_zero_of_toDigits hcs).2]

/-- The digits of a number before a text that does not go on with it. -/
theorem scanDigits_toDigits {n : Nat} (h : n ≤ maxSignificand) (hrest : NumberEnds rest) :
    scanDigits false (Nat.toDigits 10 n) rest = .ok (.integer n, rest) := by
  have htake : takeDigits 0 (Nat.toDigits 10 n) = (n, []) := by
    rw [takeDigits_eq (by rwa [Nat.ofDigitChars_ten_toDigits]), Nat.ofDigitChars_ten_toDigits]
  rw [scanDigits, htake]
  dsimp only
  -- A point or an exponent would go on with the number.
  split
  · exact absurd rfl (hrest _ rfl).2.1
  · exact absurd rfl (hrest _ rfl).2.2.1
  · exact absurd rfl (hrest _ rfl).2.2.2
  · rfl

/-- Digits and what follows them come apart where no further digit follows. -/
theorem takeWhile_digits {digits : List Char} (h : ∀ c ∈ digits, c.isDigit)
    (hrest : ∀ c ∈ rest.head?, ¬c.isDigit) :
    (digits ++ rest).takeWhile Char.isDigit = digits ∧
      (digits ++ rest).dropWhile Char.isDigit = rest := by
  have hstop : rest.takeWhile Char.isDigit = [] ∧ rest.dropWhile Char.isDigit = rest := by
    cases rest with
    | nil => exact ⟨rfl, rfl⟩
    | cons c rest =>
      have hc := hrest c rfl
      exact ⟨List.takeWhile_cons_of_neg hc, List.dropWhile_cons_of_neg hc⟩
  rw [List.takeWhile_append_of_pos h, List.dropWhile_append_of_pos h, hstop.1, hstop.2,
    List.append_nil]
  exact ⟨rfl, rfl⟩

/-- The digits of a number, of which the first one is zero only if it is the only one, are taken
together. -/
theorem scanNumber_digits {negative : Bool} {digits : List Char} (hne : digits ≠ [])
    (hdigits : ∀ c ∈ digits, c.isDigit) (hzero : digits.head? = some '0' → digits = ['0'])
    (hrest : ∀ c ∈ rest.head?, ¬c.isDigit) :
    scanNumber negative (digits ++ rest) = scanDigits negative digits rest := by
  obtain ⟨c, cs, rfl⟩ := List.exists_cons_of_ne_nil hne
  rw [List.cons_append]
  by_cases hc : c = '0'
  · -- After a zero no digit may follow.
    subst hc
    obtain rfl : cs = [] := (List.cons.inj (hzero rfl)).2
    rw [List.nil_append]
    cases rest with
    | nil => rfl
    | cons c rest =>
      rw [scanNumber]
      exact if_neg (hrest c rfl)
  · obtain ⟨htake, hdrop⟩ :=
      takeWhile_digits (fun c hc => hdigits c (List.mem_cons_of_mem _ hc)) hrest
    -- The first digit is no zero, so all digits are taken at once.
    rw [scanNumber]
    · rw [if_pos (hdigits c List.mem_cons_self), htake, hdrop]
    · exact hc

/-- **A whole number** is read back. -/
theorem scanNumber_toDigits {n : Nat} (h : n ≤ maxSignificand) (hrest : NumberEnds rest) :
    scanNumber false (Nat.toDigits 10 n ++ rest) = .ok (.integer n, rest) := by
  rw [scanNumber_digits Nat.toDigits_ne_nil
    (fun c hc => Nat.isDigit_of_mem_toDigits (by decide) (by decide) hc) head?_toDigits
    fun c hc => by simp [(hrest c hc).1]]
  exact scanDigits_toDigits h hrest

/-- A digit is neither white space nor a bracket nor a letter. -/
theorem isDigit_begins (h : c.isDigit) : isSpace c = false ∧ c ≠ ']' ∧ c ≠ 'n' := by
  refine ⟨?_, ?_, ?_⟩
  · rw [isSpace, Bool.eq_false_iff]
    intro hspace
    simp only [Bool.or_eq_true, decide_eq_true_eq] at hspace
    -- White space is one of four characters, and none of them is a digit.
    rcases hspace with ((rfl | rfl) | rfl) | rfl <;> exact absurd h (by decide)
  · rintro rfl
    exact absurd h (by decide)
  · rintro rfl
    exact absurd h (by decide)

end SchemaDiagram.Json
