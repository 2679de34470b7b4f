import SchemaDiagram.Proofs.JsonGrammar

/-!
# The indented form is a spelling

What is printed of a value spells it, at every level of indentation and whatever follows it
(`Value.spans_write`): characters of strings with the escapes of the printer
(`charSpan_encodeChar`), numbers in their digits (`Literal.ofNumber`), arrays and objects with their
entries and members on lines of their own (`Values.text`, `ObjectMembers.text`).
-/

namespace SchemaDiagram.Json

variable {loose first : Bool} {rest tail : List Char}

/-! ### Strings -/

/-- A hexadecimal digit has the value that it was written for. -/
theorem hexValue?_digitChar : ∀ n < 16, Text.hexValue? (Nat.digitChar n) = some n := by
  decide

/-- Four hexadecimal digits hold a number below `2 ^ 16`. -/
theorem hexNumber?_hexDigits4 {n : Nat} (h : n < 0x10000) :
    Text.hexNumber? (hexDigits4 n) = some n := by
  have hdigit : ∀ m, Text.hexValue? (Nat.digitChar (m % 16)) = some (m % 16) := fun m =>
    hexValue?_digitChar _ (Nat.mod_lt _ (by decide))
  rw [Text.hexNumber?, hexDigits4]
  simp only [List.map_cons, List.map_nil, List.foldlM_cons, List.foldlM_nil, hdigit,
    Option.map_some, Option.bind_eq_bind, Option.bind_some]
  change some _ = some n
  congr 1
  omega

/-- **A printed character** is that character, escaped or not. -/
theorem charSpan_encodeChar (c : Char) (rest : List Char) :
    CharSpan c (encodeChar c ++ rest) rest := by
  unfold encodeChar
  -- The cases are those of the printer: seven escapes by letter, the other control characters,
  -- and the characters that stand for themselves.
  split
  · next h => exact h ▸ .letter '"' '"' rest rfl
  split
  · next h => exact h ▸ .letter '\\' '\\' rest rfl
  split
  · next h => exact h ▸ .letter '\x08' 'b' rest rfl
  split
  · next h => exact h ▸ .letter '\x0c' 'f' rest rfl
  split
  · next h => exact h ▸ .letter '\n' 'n' rest rfl
  split
  · next h => exact h ▸ .letter '\r' 'r' rest rfl
  split
  · next h => exact h ▸ .letter '\t' 't' rest rfl
  split
  · next h =>
    have hleading : ¬isLeading c.toNat := by
      rw [isLeading, Bool.and_eq_true, decide_eq_true_eq]
      -- A control character is below the halves of surrogate pairs.
      omega
    have htrailing : ¬isTrailing c.toNat := by
      rw [isTrailing, Bool.and_eq_true, decide_eq_true_eq]
      omega
    have hspan := CharSpan.code c.toNat _ _ _ _ rest (hexNumber?_hexDigits4 (by omega)) hleading
      htrailing
    rwa [Char.ofNat_toNat] at hspan
  · next hquote hbackslash _ _ _ _ _ hcontrol => exact .plain c rest hcontrol hquote hbackslash

/-- An encoded string stands between two quotes. -/
theorem encodeString_append (s : String) (cs : List Char) :
    encodeString s ++ cs = '"' :: (s.toList.flatMap encodeChar ++ '"' :: cs) := by
  rw [encodeString, List.append_assoc, List.cons_append, List.singleton_append]

/-- **A printed string.** -/
theorem textSpan_encodeString (s : String) (rest : List Char) :
    TextSpan loose s (encodeString s ++ rest) rest := by
  have hspan : ∀ cs, StringSpan loose cs (cs.flatMap encodeChar ++ '"' :: rest) rest := by
    intro cs
    -- By the characters, each of which is spelled as it is printed.
    induction cs with
    | nil => exact .close rest
    | cons c cs ih =>
      rw [List.flatMap_cons, List.append_assoc]
      exact .char (charSpan_encodeChar c _) ih
  exact ⟨_, encodeString_append s rest, hspan s.toList⟩

/-! ### Numbers -/

/-- The literal in which a number is printed. -/
def Literal.ofNumber (significand exponent : Int) : Literal where
  negative := decide (significand < 0)
  whole := Nat.toDigits 10 significand.natAbs
  fraction := []
  exponent :=
    if exponent = 0 then none
    else some (if exponent < 0 then ['e', '-'] else ['e'], Nat.toDigits 10 exponent.natAbs)
  whole_ne_nil := Nat.toDigits_ne_nil
  whole_digits := fun c hc => Nat.isDigit_of_mem_toDigits (by decide) (by decide) hc
  no_leading_zero := head?_toDigits
  fraction_digits := fun c hc => absurd hc List.not_mem_nil
  exponent_parts := by
    intro mark digits h
    split at h
    · cases h
    · obtain ⟨rfl, rfl⟩ := Prod.mk.inj (Option.some.inj h)
      refine ⟨?_, Nat.toDigits_ne_nil, fun c hc => ?_⟩
      · split <;> decide
      · exact Nat.isDigit_of_mem_toDigits (by decide) (by decide) hc

/-- A whole number is printed as its sign and its digits. -/
theorem toList_toString_int (n : Int) : (toString n).toList =
    (if n < 0 then ['-'] else []) ++ Nat.toDigits 10 n.natAbs := by
  rw [Int.toString_eq_repr, Int.repr_eq_if]
  by_cases h : n < 0
  · have hneg : (-n).toNat = n.natAbs := by omega
    rw [if_neg (by omega), if_pos h, String.toList_append, Nat.toList_repr, hneg]
    rfl
  · have hpos : n.toNat = n.natAbs := by omega
    rw [if_pos (by omega), if_neg h, Nat.toList_repr, hpos]
    rfl

namespace Literal

variable (significand exponent : Int)

/-- The exponent of a printed number is left out if it is zero. -/
theorem exponent_ofNumber : (ofNumber significand exponent).exponent =
    if exponent = 0 then none
    else some (if exponent < 0 then ['e', '-'] else ['e'], Nat.toDigits 10 exponent.natAbs) := rfl

/-- The exponent of a printed number stands behind an `e`, as a whole number does. -/
theorem exponentText_ofNumber : (ofNumber significand exponent).exponentText =
    if exponent = 0 then [] else 'e' :: (toString exponent).toList := by
  rw [exponentText, exponent_ofNumber, toList_toString_int]
  -- No exponent, one with a sign, or one without.
  by_cases hzero : exponent = 0
  · rw [if_pos hzero, if_pos hzero, Option.elim_none]
  · rw [if_neg hzero, if_neg hzero, Option.elim_some]
    by_cases hneg : exponent < 0
    · rw [if_pos hneg, if_pos hneg]
      rfl
    · rw [if_neg hneg, if_neg hneg]
      rfl

/-- **The literal of a number** is what is printed of it. -/
theorem text_ofNumber :
    (ofNumber significand exponent).text = encodeNumber significand exponent := by
  have hsign : (ofNumber significand exponent).signText =
      if significand < 0 then ['-'] else [] := by
    rw [signText, ofNumber]
    simp only [decide_eq_true_eq]
  have hwhole : (toString significand).toList =
      (if significand < 0 then ['-'] else []) ++ (ofNumber significand exponent).whole :=
    toList_toString_int significand
  rw [text, hsign, exponentText_ofNumber, encodeNumber, hwhole, List.append_assoc]
  rfl

/-- The literal of a number has its significand. -/
theorem significand_ofNumber : (ofNumber significand exponent).significand = significand := by
  rw [Literal.significand]
  simp only [ofNumber, List.append_nil, decide_eq_true_eq, Nat.ofDigitChars_ten_toDigits]
  split <;> omega

/-- The literal of a number has its exponent as its power of ten. -/
theorem power_ofNumber : (ofNumber significand exponent).power = exponent := by
  have hfraction : (ofNumber significand exponent).fraction.length = 0 := rfl
  rw [power, exponent_ofNumber, hfraction]
  by_cases hzero : exponent = 0
  · rw [if_pos hzero, hzero]
    rfl
  · rw [if_neg hzero]
    simp only [Option.elim_some, Nat.ofDigitChars_ten_toDigits]
    by_cases hneg : exponent < 0
    · -- The mark has the sign of the exponent.
      rw [if_pos hneg, if_pos (by decide)]
      omega
    · rw [if_neg hneg, if_neg (by decide)]
      omega

end Literal

/-- **A printed number.** -/
theorem number_spans (significand exponent : Int) (rest : List Char) :
    (Value.number significand exponent).Spans (encodeNumber significand exponent ++ rest) rest :=
  ⟨.ofNumber significand exponent, by rw [Literal.text_ofNumber],
    Literal.significand_ofNumber .., Literal.power_ofNumber ..⟩

/-! ### Entries and members

The printed entries of an array, each with what stands before it, and likewise the members of an
object. -/

/-- A line feed with its indentation is white space. -/
@[simp] theorem skipSpace_newline (level : Nat) (cs : List Char) :
    skipSpace (newline level ++ cs) = skipSpace cs := by
  have hspaces : ∀ n, skipSpace (List.replicate n ' ' ++ cs) = skipSpace cs := by
    -- By the blanks of the indentation.
    intro n
    induction n with
    | zero => rfl
    | succ n ih => exact ih
  exact hspaces (2 * level)

/-- The entries of an array without its brackets; none stands before them if they are the first
ones. -/
def Values.text (level : Nat) (first : Bool) : Values → List Char
  | .nil => []
  | .cons v vs =>
    (if first then [] else [',']) ++
      (newline level ++ (v.write level ++ text level false vs))

/-- The members of an object without its braces. -/
def ObjectMembers.text (level : Nat) (first : Bool) : ObjectMembers → List Char
  | .nil => []
  | .cons name v rest =>
    (if first then [] else [',']) ++ (newline level ++ (encodeString name ++
      (':' :: ' ' :: (v.write level ++ text level false rest))))

/-- The entries after the first one are printed as they are spelled. -/
theorem Values.writeRest_eq (level : Nat) : ∀ vs : Values, vs.writeRest level = vs.text level false
  | .nil => rfl
  | .cons v vs => by
    rw [Values.writeRest, Values.text, writeRest_eq level vs]
    simp only [List.append_assoc]
    rfl

/-- The members after the first one are printed as they are spelled. -/
theorem ObjectMembers.writeRest_eq (level : Nat) :
    ∀ members : ObjectMembers, members.writeRest level = members.text level false
  | .nil => rfl
  | .cons name v rest => by
    rw [ObjectMembers.writeRest, ObjectMembers.text, writeRest_eq level rest]
    simp only [List.append_assoc]
    rfl

/-- **A printed array:** its entries, after which the closing bracket may stand on a line of its
own. -/
theorem Value.write_array (level : Nat) (vs : Values) :
    ∃ space, (∀ rest, skipSpace (space ++ rest) = skipSpace rest) ∧
      (Value.array vs).write level = '[' :: (vs.text (level + 1) true ++ (space ++ [']'])) := by
  -- Without entries the brackets stand side by side; else the last one has a line of its own.
  cases vs with
  | nil => exact ⟨[], fun rest => rfl, rfl⟩
  | cons v vs =>
    refine ⟨newline level, skipSpace_newline level, ?_⟩
    rw [Value.write, Values.text, Values.writeRest_eq, if_pos rfl]
    simp only [List.append_assoc, List.nil_append]

/-- **A printed object,** likewise. -/
theorem Value.write_object (level : Nat) (members : ObjectMembers) :
    ∃ space, (∀ rest, skipSpace (space ++ rest) = skipSpace rest) ∧
      (Value.object members).write level =
        '\x7b' :: (members.text (level + 1) true ++ (space ++ ['\x7d'])) := by
  cases members with
  | nil => exact ⟨[], fun rest => rfl, rfl⟩
  | cons name v rest =>
    refine ⟨newline level, skipSpace_newline level, ?_⟩
    rw [Value.write, ObjectMembers.text, ObjectMembers.writeRest_eq, if_pos rfl]
    simp only [List.append_assoc, List.nil_append, List.cons_append]

/-! ### Values -/

/-- What stands before an entry or a member. -/
theorem separated_newline (level : Nat) {cs : List Char} (hcs : skipSpace cs = cs) :
    Separated first ((if first then [] else [',']) ++ (newline level ++ cs)) cs := by
  have hskip : skipSpace (newline level ++ cs) = cs := by rw [skipSpace_newline, hcs]
  cases first with
  | true => exact hskip
  | false => exact ⟨_, rfl, hskip⟩

/-- A printed member up to its value. -/
theorem memberSpan_text (level : Nat) (name : String) {cs : List Char} (hcs : skipSpace cs = cs) :
    MemberSpan loose first name ((if first then [] else [',']) ++ (newline level ++
      (encodeString name ++ (':' :: ' ' :: cs)))) cs := by
  have hname : TextSpan loose name (encodeString name ++ (':' :: ' ' :: cs)) (':' :: ' ' :: cs) :=
    textSpan_encodeString name _
  have hquote : skipSpace (encodeString name ++ (':' :: ' ' :: cs)) =
      encodeString name ++ (':' :: ' ' :: cs) := by
    rw [encodeString_append]
    exact skipSpace_cons (by decide)
  exact ⟨_, _, _, separated_newline level hquote, hname, rfl, hcs⟩

mutual
/-- **A printed value** spells it. -/
theorem Value.spans_write (level : Nat) : ∀ (v : Value) (rest : List Char),
    v.Spans (v.write level ++ rest) rest
  | .null, rest => rfl
  | .bool true, rest => rfl
  | .bool false, rest => rfl
  | .number significand exponent, rest => number_spans significand exponent rest
  | .string text, rest => textSpan_encodeString text rest
  | .array entries, rest => by
    -- What is printed of an array or object spells it entry by entry, one level deeper.
    obtain ⟨space, hspace, hwritten⟩ := Value.write_array level entries
    rw [hwritten, List.cons_append, List.append_assoc, List.append_assoc, List.singleton_append]
    exact ⟨_, rfl, Values.spans_text (level + 1) entries ((hspace _).trans rfl)⟩
  | .object members, rest => by
    obtain ⟨space, hspace, hwritten⟩ := Value.write_object level members
    rw [hwritten, List.cons_append, List.append_assoc, List.append_assoc, List.singleton_append]
    exact ⟨_, rfl, ObjectMembers.spans_text (level + 1) members ((hspace _).trans rfl)⟩

/-- Printed entries spell the entries of the array. -/
theorem Values.spans_text (level : Nat) : ∀ (vs : Values) {first : Bool} {tail rest : List Char},
    skipSpace tail = ']' :: rest → vs.Spans first (vs.text level first ++ tail) rest
  | .nil, _, _, _, htail => htail
  | .cons v vs, first, tail, rest, htail => by
    have hv := Value.spans_write level v (vs.text level false ++ tail)
    refine ⟨_, _, ?_, hv, Values.spans_text level vs htail⟩
    rw [Values.text, List.append_assoc, List.append_assoc, List.append_assoc]
    exact separated_newline level hv.skipSpace

/-- Printed members spell the members of the object. -/
theorem ObjectMembers.spans_text (level : Nat) :
    ∀ (members : ObjectMembers) {first : Bool} {tail rest : List Char},
    skipSpace tail = '\x7d' :: rest → members.Spans first (members.text level first ++ tail) rest
  | .nil, _, _, _, htail => htail
  | .cons name v members, first, tail, rest, htail => by
    have hv := Value.spans_write level v (members.text level false ++ tail)
    refine ⟨_, _, ?_, hv, ObjectMembers.spans_text level members htail⟩
    rw [ObjectMembers.text]
    simp only [List.append_assoc, List.cons_append]
    exact memberSpan_text level name hv.skipSpace
end

/-- **A printed text** spells the value, however deep it is indented. -/
theorem Value.spells_write (v : Value) (level : Nat) :
    v.Spells (String.ofList (v.write level)) := by
  have hv := v.spans_write level []
  refine ⟨[], ?_, rfl⟩
  rw [String.toList_ofList, ← List.append_nil (v.write level), hv.skipSpace]
  exact hv

/-- What is printed without indentation spells the value. -/
theorem Value.spells_pretty (v : Value) : v.Spells v.pretty := v.spells_write 0

end SchemaDiagram.Json
