import SchemaDiagram.Proofs.LoadedRows

/-!
# Type modifiers

The server packs the precision of a column into one number, in a layout that goes with the type
(`PrecisionFamily.typeNames`, `PrecisionFamily.Encodes`). Decoding takes a layout apart again
(`decoding_inverts_encoding`), and what it yields is what the modifier encodes
(`decoded_precisions_are_encoded`), with one exception: the modifiers of `numeric` columns below the
offset. Taking the offset off makes them negative, and where the length of a text refuses a negative
number, the mask of the low half turns it into the greatest number there is.

Modifiers are signed words of 32 bits, and so are the numbers on the way from a modifier to its
precision (`precisionInWords`). The subtraction of the offset is the only step whose result may be
no word, and since negative modifiers are sorted out before, it always is one.
-/

namespace SchemaDiagram

/-! ### Encoded precisions -/

namespace PrecisionFamily

/-- **The ten types with a precision,** by the layout of their modifiers. -/
def typeNames : PrecisionFamily → List String
  | character => ["varchar", "bpchar"]
  | numeric => ["numeric"]
  | bits => ["bit", "varbit"]
  | time => ["time", "timetz", "timestamp", "timestamptz"]
  | interval => ["interval"]

/-- The family that a name is looked up to is the one whose types have this name. -/
theorem ofTypeName?_eq_some_iff {name : String} {family : PrecisionFamily} :
    ofTypeName? name = some family ↔ name ∈ family.typeNames := by
  constructor
  · intro h
    unfold ofTypeName? at h
    -- One case for each name of the table, and one for all other names.
    split at h
    all_goals cases h
    all_goals decide
  · intro h
    cases family with
    | character =>
      obtain rfl | rfl : name = "varchar" ∨ name = "bpchar" := by simpa [typeNames] using h
      · rfl
      · rfl
    | numeric =>
      obtain rfl : name = "numeric" := List.mem_singleton.1 h
      rfl
    | bits =>
      obtain rfl | rfl : name = "bit" ∨ name = "varbit" := by simpa [typeNames] using h
      · rfl
      · rfl
    | time =>
      obtain rfl | rfl | rfl | rfl : name = "time" ∨ name = "timetz" ∨ name = "timestamp" ∨
          name = "timestamptz" := by simpa [typeNames] using h
      all_goals rfl
    | interval =>
      obtain rfl : name = "interval" := List.mem_singleton.1 h
      rfl

/-- **How the server encodes precisions:** the modifiers of a family of types, with the precision
that each of them stands for. -/
inductive Encodes : PrecisionFamily → Nat → Option Nat → Prop
  /-- The length of a text, with an offset of four. -/
  | character (length : Nat) : Encodes character (length + 4) (some length)
  /-- A precision above the bits of a scale, with an offset of four. -/
  | numeric {precision scale : Nat} (precision_le : precision ≤ 0x7fff)
      (scale_le : scale ≤ 0xffff) :
      Encodes numeric ((precision <<< 16 ||| scale) + 4) (some precision)
  /-- The number of bits. -/
  | bits (length : Nat) : Encodes bits length (some length)
  /-- The number of digits of the seconds. -/
  | time (digits : Nat) : Encodes time digits (some digits)
  /-- A field mask above the number of digits of the seconds. -/
  | interval {fields digits : Nat} (fields_le : fields ≤ 0x7fff) (digits_lt : digits < 0xffff) :
      Encodes interval (fields <<< 16 ||| digits) (some digits)
  /-- A field mask above the bits that stand for no precision. -/
  | openInterval {fields : Nat} (fields_le : fields ≤ 0x7fff) :
      Encodes interval (fields <<< 16 ||| 0xffff) none

/-- Two halves in one number. -/
theorem halves_eq {high low : Nat} (h : low ≤ 0xffff) :
    high <<< 16 ||| low = high * 0x10000 + low := by
  rw [← Nat.shiftLeft_add_eq_or_of_lt (Nat.lt_succ_of_le h), Nat.shiftLeft_eq]

variable {family : PrecisionFamily} {modifier : Nat}

/-- Decoding inverts encoding in exact numbers. -/
theorem Encodes.decode {precision : Option Nat} (h : family.Encodes modifier precision) :
    -- One case per layout: taking it apart is division and remainder by the size of a half.
    family.decode modifier = precision.map Int.ofNat := by
  cases h with
  | character length =>
    refine congrArg some ?_
    rw [Int.natCast_add]
    exact Int.add_sub_cancel _ 4
  | @numeric precision scale precision_le scale_le =>
    refine congrArg some ?_
    rw [halves_eq scale_le]
    change _ = (precision : Int)
    omega
  | bits length => rfl
  | time digits => rfl
  | @interval fields digits fields_le digits_lt =>
    have hlow : ((fields * 0x10000 + digits : Nat) : Int) % 0x10000 = digits := by omega
    rw [halves_eq (Nat.le_of_lt digits_lt), PrecisionFamily.decode, hlow]
    exact if_neg fun h => Nat.ne_of_lt digits_lt (Int.ofNat.inj h)
  | @openInterval fields fields_le =>
    have hlow : ((fields * 0x10000 + 0xffff : Nat) : Int) % 0x10000 = 0xffff := by omega
    rw [halves_eq (Nat.le_refl _), PrecisionFamily.decode, hlow]
    rfl

/-- **Below the offset:** the modifiers of `numeric` columns that encode nothing. -/
def BelowOffset (family : PrecisionFamily) (typmod : Int) : Prop := family = numeric ∧ typmod < 4

/-- Encoding inverts decoding in exact numbers, except below the offset. -/
theorem encodes_of_decode {precision : Nat}
    (hlt : modifier < 0x80000000) (hoffset : ¬family.BelowOffset modifier)
    (h : family.decode modifier = some (precision : Int)) :
    family.Encodes modifier (some precision) := by
  cases family with
  | character =>
    have hlength : (modifier : Int) - 4 = precision := Option.some.inj h
    obtain rfl : modifier = precision + 4 := by omega
    exact .character precision
  | numeric =>
    have hprecision : ((modifier : Int) - 4) / 0x10000 % 0x10000 = precision := Option.some.inj h
    have h4 : ¬(modifier : Int) < 4 := fun hlow => hoffset ⟨rfl, hlow⟩
    -- The scale is what the precision leaves of the number.
    have hscale : (modifier - 4) % 0x10000 ≤ 0xffff := by omega
    have hmodifier : modifier = (precision <<< 16 ||| (modifier - 4) % 0x10000) + 4 := by
      rw [halves_eq hscale]
      omega
    rw [hmodifier]
    exact .numeric (by omega) hscale
  | bits =>
    obtain rfl : modifier = precision := Int.ofNat.inj (Option.some.inj h)
    exact .bits modifier
  | time =>
    obtain rfl : modifier = precision := Int.ofNat.inj (Option.some.inj h)
    exact .time modifier
  | interval =>
    rw [PrecisionFamily.decode] at h
    split at h
    · -- All low bits are set, and nothing is decoded.
      cases h
    · next hsome =>
      have hdigits : (modifier : Int) % 0x10000 = precision := Option.some.inj h
      change ¬(modifier : Int) % 0x10000 = 0xffff at hsome
      have hdigits_lt : precision < 0xffff := by omega
      have hmodifier : modifier = (modifier / 0x10000) <<< 16 ||| precision := by
        rw [halves_eq (Nat.le_of_lt hdigits_lt)]
        omega
      rw [hmodifier]
      exact .interval (by omega) hdigits_lt

/-- **A precision in a modifier:** what the layout says about the two numbers. -/
def Holds (typmod : Int) (precision : Nat) : PrecisionFamily → Prop
  | character => precision + 4 = typmod
  | numeric => precision * 0x10000 + 4 ≤ typmod
  | bits | time => precision = typmod
  | interval => precision = typmod % 0x10000 ∧ precision ≠ 0xffff

theorem Encodes.holds {precision : Nat} (h : family.Encodes modifier (some precision)) :
    family.Holds modifier precision := by
  -- Only encodings of a precision are left; the open interval goes by its last case.
  generalize hprecision : some precision = precision? at h
  cases h with
  | character length =>
    obtain rfl := Option.some.inj hprecision
    exact (Int.natCast_add _ _).symm
  | @numeric precision scale precision_le scale_le =>
    obtain rfl := Option.some.inj hprecision
    rw [halves_eq scale_le, Holds]
    omega
  | bits length => exact congrArg Int.ofNat (Option.some.inj hprecision)
  | time digits => exact congrArg Int.ofNat (Option.some.inj hprecision)
  | @interval fields digits fields_le digits_lt =>
    obtain rfl := Option.some.inj hprecision
    rw [halves_eq (Nat.le_of_lt digits_lt)]
    constructor <;> omega
  | openInterval => cases hprecision

/-- What is decoded of a word is less than the next power of two. -/
theorem decode_lt {typmod value : Int} (hlt : typmod < 0x80000000)
    (h : family.decode typmod = some value) : value < 0x80000000 := by
  cases family with
  | character =>
    obtain rfl : typmod - 4 = value := Option.some.inj h
    omega
  | numeric =>
    obtain rfl : (typmod - 4) / 0x10000 % 0x10000 = value := Option.some.inj h
    omega
  | bits => rwa [← Option.some.inj h]
  | time => rwa [← Option.some.inj h]
  | interval =>
    rw [PrecisionFamily.decode] at h
    split at h
    · cases h
    · rw [← Option.some.inj h]
      omega

end PrecisionFamily

/-! ### Decoded precisions -/

section Decoding

variable {name : String} {typmod : Int32} {family : PrecisionFamily}

theorem neg_iff_toInt : typmod < 0 ↔ ¬0 ≤ typmod.toInt := by
  rw [Int32.lt_iff_toInt_lt, Int32.toInt_zero, Int.not_le]

theorem precisionOf_of_neg (name : String) (h : typmod < 0) : precisionOf name typmod = none := by
  rw [precisionOf, if_pos h]

theorem precisionOf_of_not_mem (h : name ∉ precisionTypes) (typmod : Int32) :
    precisionOf name typmod = none := by
  have hfamily : PrecisionFamily.ofTypeName? name = none := by
    rw [← Option.not_isSome_iff_eq_none, ← mem_precisionTypes]
    exact h
  -- No layout goes with the name, whatever the modifier is.
  rw [precisionOf, hfamily]
  split <;> rfl

/-- **What is decoded** is what the family of the type yields for a modifier of at least zero, where
that is a number of at least zero. -/
theorem precisionOf_eq_some_iff {precision : UInt32} :
    precisionOf name typmod = some precision ↔ 0 ≤ typmod.toInt ∧
      ∃ family, PrecisionFamily.ofTypeName? name = some family ∧
        family.decode typmod.toInt = some (precision.toNat : Int) := by
  by_cases hneg : typmod < 0
  · rw [precisionOf_of_neg name hneg]
    exact iff_of_false (Option.some_ne_none precision).symm fun h => neg_iff_toInt.1 hneg h.1
  have h0 : 0 ≤ typmod.toInt := Decidable.of_not_not (mt neg_iff_toInt.2 hneg)
  rw [precisionOf, if_neg hneg, and_iff_right h0]
  refine Option.bind_eq_some_iff.trans (exists_congr fun family => and_congr_right fun _ => ?_)
  refine Option.bind_eq_some_iff.trans ⟨?_, ?_⟩
  · rintro ⟨value, hvalue, h⟩
    have hlt := PrecisionFamily.decode_lt typmod.toInt_lt hvalue
    split at h
    · -- A negative result is dropped.
      cases h
    · next hnonneg =>
      -- The value fits into a word without sign, so nothing is lost on the way.
      rw [hvalue, ← Option.some.inj h, UInt32.toNat_ofNat_of_lt']
      · rw [Int.toNat_of_nonneg (Int.not_lt.1 hnonneg)]
      · change value.toNat < 0x100000000
        omega
  · intro hvalue
    refine ⟨_, hvalue, ?_⟩
    rw [if_neg (Int.not_lt.2 (Int.natCast_nonneg _)), Int.toNat_natCast, UInt32.ofNat_toNat]

/-- **Decoding an encoded precision,** where the modifier is a word. -/
theorem PrecisionFamily.Encodes.precisionOf {modifier : Nat} {precision : Option Nat}
    (h : family.Encodes modifier precision) (hfamily : ofTypeName? name = some family)
    (hword : typmod.toInt = modifier) :
    (precisionOf name typmod).map UInt32.toNat = precision := by
  have hdecode := h.decode
  rw [← hword] at hdecode
  cases precision with
  -- There is nothing to decode, so a decoded precision would contradict it.
  | none =>
    rw [Option.map_eq_none_iff, Option.eq_none_iff_forall_ne_some]
    intro decoded hdecoded
    obtain ⟨-, family', hfamily', hdecode'⟩ := precisionOf_eq_some_iff.1 hdecoded
    obtain rfl := Option.some.inj (hfamily.symm.trans hfamily')
    exact absurd (hdecode.symm.trans hdecode') (Option.some_ne_none _).symm
  | some precision =>
    have hlt : (precision : Int) < 0x80000000 := decode_lt typmod.toInt_lt hdecode
    have hnat : (UInt32.ofNat precision).toNat = precision :=
      UInt32.toNat_ofNat_of_lt' (show precision < 0x100000000 by omega)
    rw [Option.map_eq_some_iff]
    refine ⟨UInt32.ofNat precision, precisionOf_eq_some_iff.2 ⟨?_, family, hfamily, ?_⟩, hnat⟩
    · rw [hword]
      exact Int.natCast_nonneg _
    · rw [hdecode, hnat]
      rfl

/-- **Encoding a decoded precision,** except below the offset. -/
theorem encodes_of_precisionOf {precision : UInt32} (h : precisionOf name typmod = some precision)
    (hfamily : PrecisionFamily.ofTypeName? name = some family)
    (hoffset : ¬family.BelowOffset typmod.toInt) :
    family.Encodes typmod.toInt.toNat (some precision.toNat) := by
  obtain ⟨h0, family', hfamily', hdecode⟩ := precisionOf_eq_some_iff.1 h
  obtain rfl := Option.some.inj (hfamily.symm.trans hfamily')
  have hword : ((typmod.toInt.toNat : Nat) : Int) = typmod.toInt := Int.toNat_of_nonneg h0
  have hlt : typmod.toInt < 0x80000000 := typmod.toInt_lt
  refine PrecisionFamily.encodes_of_decode (by omega) ?_ ?_
  · rwa [hword]
  · rwa [hword]

/-- **Modifiers below the offset** of a text encode no length, those of a number are decoded to the
greatest number of 16 bits. -/
theorem precisionOf_below_offset (hfamily : PrecisionFamily.ofTypeName? name = some family)
    (hoffset : family = .character ∨ family = .numeric) (hlt : typmod.toInt < 4) :
    precisionOf name typmod =
      if family = .numeric ∧ 0 ≤ typmod.toInt then some 0xffff else none := by
  split
  · -- A number below the offset becomes negative, and its high half has all bits set.
    next h =>
    obtain ⟨rfl, h0⟩ := h
    refine precisionOf_eq_some_iff.2 ⟨h0, .numeric, hfamily, congrArg some ?_⟩
    change (typmod.toInt - 4) / 0x10000 % 0x10000 = 0xffff
    omega
  · next h =>
    rw [Option.eq_none_iff_forall_ne_some]
    intro precision hprecision
    obtain ⟨h0, family', hfamily', hdecode⟩ := precisionOf_eq_some_iff.1 hprecision
    obtain rfl := Option.some.inj (hfamily.symm.trans hfamily')
    rcases hoffset with rfl | rfl
    · -- The length of a text would be negative.
      have hlength : typmod.toInt - 4 = precision.toNat := Option.some.inj hdecode
      omega
    · exact h ⟨rfl, h0⟩

/-- The server supplies precisions to times and intervals only. -/
theorem implicitPrecision_of_mem (h : name ∈ implicitPrecisionTypes) :
    PrecisionFamily.ofTypeName? name = some .time ∨
      PrecisionFamily.ofTypeName? name = some .interval := by
  simp only [implicitPrecisionTypes, List.mem_cons, List.not_mem_nil, or_false] at h
  rcases h with rfl | rfl | rfl | rfl | rfl
  · exact .inl rfl
  · exact .inl rfl
  · exact .inl rfl
  · exact .inl rfl
  · exact .inr rfl

/-- A column of a text or number misses its precision just in case none is decoded. -/
theorem missesPrecision_iff {column : Column} {canonical : String}
    (hfamily : PrecisionFamily.ofTypeName? name = some family)
    (hoffset : family = .character ∨ family = .numeric)
    (htype : column.type = .resolve name canonical) :
    column.missesPrecision ↔ column.precision = none := by
  have hcarries : name ∈ precisionTypes :=
    mem_precisionTypes.2 (Option.isSome_iff_exists.2 ⟨family, hfamily⟩)
  have hexplicit : name ∉ implicitPrecisionTypes := by
    intro h
    rcases implicitPrecision_of_mem h with h | h
    · obtain rfl := Option.some.inj (hfamily.symm.trans h)
      rcases hoffset with h | h <;> cases h
    · obtain rfl := Option.some.inj (hfamily.symm.trans h)
      rcases hoffset with h | h <;> cases h
  rw [Column.missesPrecision, htype, SqlType.resolve, decide_eq_true hcarries,
    decide_eq_false hexplicit, Bool.true_and, Bool.not_false, Bool.true_and,
    Option.isNone_iff_eq_none]

end Decoding

/-! ### Decoding in words -/

/-- **Overflow:** the result of a step that is no signed word of 32 bits. -/
structure Overflow where
  result : Int

/-- The signed word of this value, if there is one. -/
def exactWord (value : Int) : Except Overflow Int32 :=
  if -0x80000000 ≤ value ∧ value < 0x80000000 then .ok (Int32.ofInt value) else .error ⟨value⟩

/-- **Decoding in words.** The offset is taken off, the high half shifted down, the low half masked,
with a word after every step. Shifts by less than the width of a word and masks yield words
always. -/
def PrecisionFamily.decodeInWords (typmod : Int32) :
    PrecisionFamily → Except Overflow (Option Int32)
  | character => do
    let length ← exactWord (typmod.toInt - 4)
    return some length
  | numeric => do
    let packed ← exactWord (typmod.toInt - 4)
    return some ((packed >>> 16) &&& 0xffff)
  | bits | time => return some typmod
  | interval =>
    let low := typmod &&& 0xffff
    return if low = 0xffff then none else some low

/-- **The precision of a column, computed in words.** -/
def precisionInWords (typeName : String) (typmod : Int32) : Except Overflow (Option UInt32) :=
  if typmod < 0 then return none
  else match PrecisionFamily.ofTypeName? typeName with
    | none => return none
    | some family => do
      let word? ← family.decodeInWords typmod
      return word?.bind fun word => if word < 0 then none else some word.toUInt32

theorem exactWord_eq_ok (value : Int) (h : -0x80000000 ≤ value) (h' : value < 0x80000000) :
    exactWord value = .ok (Int32.ofInt value) ∧ (Int32.ofInt value).toInt = value :=
  ⟨if_pos ⟨h, h'⟩, Int32.toInt_ofInt_of_le h h'⟩

theorem toInt_lowHalf (word : Int32) : (word &&& 0xffff).toInt = word.toInt % 0x10000 := by
  have hmask : word.toBitVec.toNat &&& 0xffff = word.toBitVec.toNat % 0x10000 :=
    Nat.and_two_pow_sub_one_eq_mod _ 16
  have hlow : (word &&& 0xffff).toInt =
      -- The mask works on the bits, which are those of the number without sign.
      ((word.toBitVec.toNat % 0x10000 : Nat) : Int).bmod 0x100000000 := by
    rw [← hmask]
    exact BitVec.toInt_and _ _
  have hword : word.toInt = word.toBitVec.toInt := rfl
  rw [hlow, hword, BitVec.toInt_eq_toNat_cond, Int.bmod_eq_emod]
  split <;> split <;> omega

theorem toInt_highHalf (word : Int32) : (word >>> 16).toInt = word.toInt / 0x10000 := by
  have hshift : (word >>> 16).toInt = (word.toBitVec.sshiftRight 16).toInt := rfl
  rw [hshift, BitVec.toInt_sshiftRight, Int.shiftRight_eq_div_pow]
  rfl

theorem toUInt32_of_nonneg {word : Int32} (h : 0 ≤ word.toInt) :
    word.toUInt32 = UInt32.ofNat word.toInt.toNat := by
  have hword : word.toInt = word.toBitVec.toInt := rfl
  have hnat : word.toUInt32.toNat = word.toBitVec.toNat := rfl
  have hcond := word.toBitVec.toInt_eq_toNat_cond
  have hlt := word.toBitVec.isLt
  -- A word of at least zero has the same bits with and without sign.
  rw [← UInt32.toNat_inj, UInt32.toNat_ofNat', hnat]
  split at hcond <;> omega

/-- **No step overflows** from a modifier of at least zero, and the words have the exact values. -/
theorem PrecisionFamily.decodeInWords_eq (family : PrecisionFamily) {typmod : Int32}
    (h0 : 0 ≤ typmod.toInt) : ∃ word?, family.decodeInWords typmod = .ok word? ∧
      word?.map Int32.toInt = family.decode typmod.toInt := by
  -- The offset is taken off a modifier of at least zero, which cannot leave the words.
  have hlt : typmod.toInt < 0x80000000 := typmod.toInt_lt
  obtain ⟨hword, hvalue⟩ :=
    exactWord_eq_ok (typmod.toInt - 4) (by omega) (by omega)
  cases family with
  | character =>
    refine ⟨_, by rw [decodeInWords, hword]; rfl, ?_⟩
    rw [Option.map_some, hvalue, decode]
  | numeric =>
    refine ⟨_, by rw [decodeInWords, hword]; rfl, ?_⟩
    rw [Option.map_some, toInt_lowHalf, toInt_highHalf, hvalue, decode]
  | bits => exact ⟨some typmod, rfl, rfl⟩
  | time => exact ⟨some typmod, rfl, rfl⟩
  | interval =>
    have hnone : typmod &&& 0xffff = 0xffff ↔ typmod.toInt % 0x10000 = noIntervalPrecision := by
      rw [← Int32.toInt_inj, toInt_lowHalf]
      rfl
    refine ⟨_, rfl, ?_⟩
    rw [decode]
    -- The words in the comparison are replaced by their exact values.
    simp only [hnone]
    split
    · rfl
    · rw [Option.map_some, toInt_lowHalf]

/-- **Words suffice** on the way from any modifier to its precision. -/
theorem precisionInWords_eq (name : String) (typmod : Int32) :
    precisionInWords name typmod = .ok (precisionOf name typmod) := by
  rw [precisionInWords, precisionOf]
  by_cases hneg : typmod < 0
  · rw [if_pos hneg, if_pos hneg]
    rfl
  rw [if_neg hneg, if_neg hneg]
  cases PrecisionFamily.ofTypeName? name with
  | none => rfl
  | some family =>
    obtain ⟨word?, hwords, hvalue⟩ :=
      family.decodeInWords_eq (Decidable.of_not_not (mt neg_iff_toInt.2 hneg))
    have hresult : (word?.bind fun word => if word < 0 then none else some word.toUInt32) =
        (family.decode typmod.toInt).bind fun precision =>
          if precision < 0 then none else some (UInt32.ofNat precision.toNat) := by
      rw [← hvalue, Option.bind_map]
      -- Inside the two branches the exact value and the word have the same sign.
      refine congrArg word?.bind (funext fun word => ?_)
      simp only [Function.comp_apply, Int32.lt_iff_toInt_lt, Int32.toInt_zero]
      split
      · rfl
      · next hnonneg => rw [toUInt32_of_nonneg (Int.not_lt.1 hnonneg)]
    simp only [hwords]
    exact congrArg Except.ok hresult

/-! ### Decoding and encoding -/

/-- **Decoding inverts the encoding of the server.** Every encoded precision that is a word is
decoded to what it stands for. There is no precision in a negative modifier or for a type
without precisions, and no step of decoding leaves the words of 32 bits. The types with precisions
are those of the five families. -/
theorem decoding_inverts_encoding :
    (∀ name family modifier precision, PrecisionFamily.ofTypeName? name = some family →
      family.Encodes modifier precision → modifier < 0x80000000 →
        (precisionOf name (Int32.ofNat modifier)).map UInt32.toNat = precision) ∧
    (∀ name, ∀ typmod < 0, precisionOf name typmod = none) ∧
    (∀ name ∉ precisionTypes, ∀ typmod, precisionOf name typmod = none) ∧
    (∀ name typmod, precisionInWords name typmod = .ok (precisionOf name typmod)) ∧
    ∀ name family, PrecisionFamily.ofTypeName? name = some family ↔ name ∈ family.typeNames := by
  refine ⟨?_, fun name typmod h => precisionOf_of_neg name h,
    fun name h typmod => precisionOf_of_not_mem h typmod, precisionInWords_eq,
    fun _ _ => PrecisionFamily.ofTypeName?_eq_some_iff⟩
  intro name family modifier precision hfamily hencodes hlt
  exact hencodes.precisionOf hfamily (Int32.toInt_ofNat_of_lt hlt)

/-- Ten digits with the bits of a scale below zero, and an interval without precision. -/
theorem decoding_inverts_encoding_prices :
    (PrecisionFamily.numeric.Encodes ((10 <<< 16 ||| 0xfffe) + 4) (some 10) ∧
      (precisionOf "numeric" (Int32.ofNat ((10 <<< 16 ||| 0xfffe) + 4))).map UInt32.toNat =
        some 10) ∧
    (PrecisionFamily.interval.Encodes (0x1000 <<< 16 ||| 0xffff) none ∧
      (precisionOf "interval" (Int32.ofNat (0x1000 <<< 16 ||| 0xffff))).map UInt32.toNat = none) ∧
    precisionOf "timestamp" (-1) = none ∧
    precisionOf "uuid" 4 = none := by
  obtain ⟨hdecode, hnegative, hother, -⟩ := decoding_inverts_encoding
  have hprice : PrecisionFamily.numeric.Encodes ((10 <<< 16 ||| 0xfffe) + 4) (some 10) :=
    .numeric (by decide) (by decide)
  have hinterval : PrecisionFamily.interval.Encodes (0x1000 <<< 16 ||| 0xffff) none :=
    .openInterval (by decide)
  exact ⟨⟨hprice, hdecode _ _ _ _ rfl hprice (by decide)⟩,
    ⟨hinterval, hdecode _ _ _ _ rfl hinterval (by decide)⟩,
    hnegative _ _ (by decide), hother _ (by decide) _⟩

/-- **Decoded precisions are encoded** in their modifiers, which are at least zero, except that the
modifiers of numbers below the offset are decoded to a precision too great for them. So a column of
texts whose modifier is below the offset misses its precision, and one of numbers only if the
modifier is negative. The family of a type is the one that names it. -/
theorem decoded_precisions_are_encoded (name : String) (typmod : Int32) :
    (∀ precision, precisionOf name typmod = some precision →
      0 ≤ typmod.toInt ∧ ∃ family, PrecisionFamily.ofTypeName? name = some family ∧
        (¬family.BelowOffset typmod.toInt →
          family.Holds typmod.toInt precision.toNat ∧
          family.Encodes typmod.toInt.toNat (some precision.toNat)) ∧
        (family.BelowOffset typmod.toInt →
          precision = 0xffff ∧ ¬family.Holds typmod.toInt precision.toNat)) ∧
    (∀ family, PrecisionFamily.ofTypeName? name = some family →
      family = .character ∨ family = .numeric → typmod.toInt < 4 →
        ∀ (column : Column) (canonical : String), column.type = .resolve name canonical →
          column.precision = precisionOf name typmod →
            (column.missesPrecision ↔ ¬(family = .numeric ∧ 0 ≤ typmod.toInt))) ∧
    ∀ family, PrecisionFamily.ofTypeName? name = some family ↔ name ∈ family.typeNames := by
  refine ⟨?_, ?_, fun _ => PrecisionFamily.ofTypeName?_eq_some_iff⟩
  · intro precision h
    obtain ⟨h0, family, hfamily, -⟩ := precisionOf_eq_some_iff.1 h
    refine ⟨h0, family, hfamily, fun hoffset => ?_, ?_⟩
    · have hencodes := encodes_of_precisionOf h hfamily hoffset
      have hholds := hencodes.holds
      rw [Int.toNat_of_nonneg h0] at hholds
      exact ⟨hholds, hencodes⟩
    · rintro ⟨rfl, hlt⟩
      have hgreatest := precisionOf_below_offset hfamily (.inr rfl) hlt
      rw [h, if_pos ⟨rfl, h0⟩] at hgreatest
      obtain rfl := Option.some.inj hgreatest
      -- A precision of all bits would need a modifier beyond the words.
      refine ⟨rfl, fun hholds => ?_⟩
      change (0xffff * 0x10000 + 4 : Int) ≤ typmod.toInt at hholds
      omega
  · intro family hfamily hoffset hlt column canonical htype hprecision
    rw [missesPrecision_iff hfamily hoffset htype, hprecision,
      precisionOf_below_offset hfamily hoffset hlt]
    split
    · next h => exact iff_of_false (Option.some_ne_none _) (not_not_intro h)
    · next h => exact iff_of_true rfl h

/-- A text of no characters, whose modifier is the offset, and one below it. -/
theorem decoded_precisions_are_encoded_codes :
    precisionOf "bpchar" 4 = some 0 ∧
    PrecisionFamily.character.Holds 4 0 ∧
    PrecisionFamily.character.Encodes 4 (some 0) ∧
    Column.missesPrecision
      ⟨"code", .resolve "bpchar" "character", true, false, precisionOf "bpchar" 3⟩ := by
  obtain ⟨hencoded, -⟩ := decoded_precisions_are_encoded "bpchar" 4
  obtain ⟨-, hmisses, -⟩ := decoded_precisions_are_encoded "bpchar" 3
  have hprecision : precisionOf "bpchar" 4 = some 0 := by decide
  obtain ⟨-, family, hfamily, habove, -⟩ := hencoded 0 hprecision
  obtain rfl : .character = family := Option.some.inj hfamily
  obtain ⟨hholds, hencodes⟩ := habove fun h => PrecisionFamily.noConfusion h.1
  refine ⟨hprecision, hholds, hencodes, ?_⟩
  exact (hmisses .character rfl (.inl rfl) (by decide) _ "character" rfl rfl).2 fun h =>
    PrecisionFamily.noConfusion h.1

/-- **A precision that nothing encodes:** a modifier below the offset gives a number 65535 digits,
and the column does not miss its precision, where a text of the same modifier does. -/
theorem precision_from_below_offset :
    precisionOf "numeric" 3 = some 0xffff ∧
    ¬PrecisionFamily.numeric.Holds (3 : Int32).toInt (0xffff : UInt32).toNat ∧
    ¬Column.missesPrecision
      ⟨"price", .resolve "numeric" "numeric", false, false, precisionOf "numeric" 3⟩ ∧
    Column.missesPrecision
      ⟨"note", .resolve "varchar" "character varying", false, false, precisionOf "varchar" 3⟩ := by
  refine ⟨by decide, fun h => ?_, by decide, by decide⟩
  change (0xffff * 0x10000 + 4 : Int) ≤ 3 at h
  omega

end SchemaDiagram
