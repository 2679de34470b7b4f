import Mathlib.Data.List.Basic
import SchemaDiagram.Text.Blank

/-!
# Pieces of texts

A text is split at every occurrence of a character (`Text.pieces`, `Text.splitOn`). Where two texts
are joined by that character, the pieces of the one stand before those of the other
(`Text.pieces_append_separator`), so splitting a joined text at the joints gives the pieces of its
parts (`Text.splitOn_intercalate_of_ne_nil`). The pieces of a text are the only texts without
the character that give it when they are joined (`Text.splitOn_eq_iff`).

Trimming takes the blanks at both ends away and nothing else (`Text.trims_trim`). A text is blank
if trimming leaves nothing of it (`Text.trim_eq_empty_iff`).
-/

namespace SchemaDiagram.Text

/-! ### Pieces between separators -/

variable {separator : Char}

/-- There is at least one piece, if only the empty one. -/
theorem pieces_ne_nil (separator : Char) (cs : List Char) : pieces separator cs ≠ [] := by
  cases cs with
  | nil => exact List.cons_ne_nil _ _
  | cons c cs =>
    rw [pieces]
    split
    · exact List.cons_ne_nil _ _
    · -- The character is put in front of a piece that is there.
      split <;> exact List.cons_ne_nil _ _

/-- A text without separator is one piece. -/
theorem pieces_of_not_mem {cs : List Char} (h : separator ∉ cs) : pieces separator cs = [cs] := by
  induction cs with
  | nil => rfl
  | cons c cs ih =>
    rw [List.mem_cons, not_or] at h
    rw [pieces, if_neg (Ne.symm h.1), ih h.2]

/-- **A separator** ends the last piece in front of it and begins the first one behind it. -/
theorem pieces_append_separator (separator : Char) (xs ys : List Char) :
    pieces separator (xs ++ separator :: ys) = pieces separator xs ++ pieces separator ys := by
  induction xs with
  | nil =>
    have hfirst : pieces separator (separator :: ys) = [] :: pieces separator ys := if_pos rfl
    rw [List.nil_append, hfirst]
    rfl
  -- The piece in front of the separator grows by one character at a time, so the first text carries
  -- the induction.
  | cons x xs ih =>
    rw [List.cons_append, pieces, ih, pieces]
    split
    · rfl
    · cases hxs : pieces separator xs with
      | nil => exact absurd hxs (pieces_ne_nil separator xs)
      | cons piece rest => rfl

/-- What stands in front of a text without separator belongs to its first piece. -/
theorem pieces_append_of_not_mem {xs ys first : List Char} {others : List (List Char)}
    (hxs : separator ∉ xs) (hys : pieces separator ys = first :: others) :
    pieces separator (xs ++ ys) = (xs ++ first) :: others := by
  induction xs with
  | nil => exact hys
  | cons x xs ih =>
    rw [List.mem_cons, not_or] at hxs
    rw [List.cons_append, pieces, if_neg (Ne.symm hxs.1), ih hxs.2, List.cons_append]

/-- No separator stands in a piece. -/
theorem not_mem_of_mem_pieces {cs piece : List Char} (h : piece ∈ pieces separator cs) :
    separator ∉ piece := by
  induction cs generalizing piece with
  | nil =>
    obtain rfl := List.mem_singleton.1 h
    exact List.not_mem_nil
  | cons c cs ih =>
    -- A separator opens a piece that is empty so far, any other character goes to the first piece.
    rw [pieces] at h
    split at h
    · rcases List.mem_cons.1 h with rfl | h
      · exact List.not_mem_nil
      · exact ih h
    · next hc =>
      cases hcs : pieces separator cs with
      | nil => exact absurd hcs (pieces_ne_nil separator cs)
      | cons first rest =>
        rw [hcs] at h ih
        rcases List.mem_cons.1 h with rfl | h
        · -- The character goes in front of the first piece.
          rw [List.mem_cons, not_or]
          exact ⟨Ne.symm hc, ih List.mem_cons_self⟩
        · exact ih (List.mem_cons_of_mem _ h)

/-- No separator stands in a part. -/
theorem not_mem_of_mem_splitOn {s part : String} (h : part ∈ splitOn separator s) :
    separator ∉ part.toList := by
  obtain ⟨piece, hpiece, rfl⟩ := List.mem_map.1 h
  rw [String.toList_ofList]
  exact not_mem_of_mem_pieces hpiece

/-- A text without separator has itself as its only part. -/
theorem splitOn_of_not_mem {s : String} (h : separator ∉ s.toList) : splitOn separator s = [s] := by
  rw [splitOn, pieces_of_not_mem h, List.map_singleton, String.ofList_toList]

/-- **Splitting what was joined.** A text joined by the separator has the pieces of its parts. -/
theorem splitOn_intercalate_of_ne_nil {joint : String} (hjoint : joint.toList = [separator])
    {parts : List String} (hparts : parts ≠ []) :
    splitOn separator (joint.intercalate parts) = parts.flatMap (splitOn separator) := by
  rw [splitOn, String.toList_intercalate, hjoint]
  -- The joints stand between parts, so one part and several parts are different cases.
  induction parts with
  | nil => exact absurd rfl hparts
  | cons part parts ih =>
    cases parts with
    | nil =>
      rw [List.map_singleton, List.intercalate_singleton, List.flatMap_singleton]
      rfl
    | cons next parts =>
      rw [List.flatMap_cons, ← ih (List.cons_ne_nil _ _), List.map_cons, List.map_cons,
        List.intercalate_cons_cons, List.append_assoc, List.singleton_append,
        pieces_append_separator, List.map_append]
      rfl

/-- Apart from empty pieces, this holds of any parts. -/
theorem splitOn_intercalate {joint : String} (hjoint : joint.toList = [separator])
    (parts : List String) :
    (splitOn separator (joint.intercalate parts)).filter (· ≠ "") =
      parts.flatMap fun part => (splitOn separator part).filter (· ≠ "") := by
  cases parts with
  | nil => rfl
  | cons part parts =>
    rw [splitOn_intercalate_of_ne_nil hjoint (List.cons_ne_nil part parts), List.filter_flatMap]

/-- Joined by separators, the pieces give the text again. -/
theorem intercalate_pieces (separator : Char) (cs : List Char) :
    List.intercalate [separator] (pieces separator cs) = cs := by
  induction cs with
  | nil => rfl
  | cons c cs ih =>
    obtain ⟨piece, rest, hcs⟩ := List.exists_cons_of_ne_nil (pieces_ne_nil separator cs)
    rw [pieces]
    rw [hcs] at ih ⊢
    split
    · next hc => rw [List.intercalate_cons_cons, ih, hc, List.nil_append, List.singleton_append]
    · -- The character goes in front of the first piece, with or without pieces after it.
      cases rest with
      | nil =>
        rw [List.intercalate_singleton] at ih ⊢
        rw [ih]
      | cons next rest =>
        rw [List.intercalate_cons_cons] at ih ⊢
        rw [List.cons_append, List.cons_append, ih]

/-- **The pieces of a text** are the texts without separator that it is joined from. -/
theorem splitOn_eq_iff {joint : String} (hjoint : joint.toList = [separator]) {s : String}
    {parts : List String} : splitOn separator s = parts ↔
      parts ≠ [] ∧ (∀ part ∈ parts, separator ∉ part.toList) ∧ joint.intercalate parts = s := by
  constructor
  · -- The parts of a text have these three properties.
    rintro rfl
    refine ⟨?_, fun part => not_mem_of_mem_splitOn, ?_⟩
    · rw [splitOn, ne_eq, List.map_eq_nil_iff]
      exact pieces_ne_nil _ _
    · rw [← String.toList_inj, String.toList_intercalate, hjoint, splitOn, List.map_map]
      simp only [Function.comp_def, String.toList_ofList, List.map_id']
      exact intercalate_pieces separator s.toList
  · -- Each part comes back as one part, for it has no separator.
    rintro ⟨hne, hfree, rfl⟩
    rw [splitOn_intercalate_of_ne_nil hjoint hne, List.flatMap_congr fun part hpart =>
      splitOn_of_not_mem (hfree part hpart), List.flatMap_singleton']

/-! ### Blank texts -/

/-- **Blank text.** All its characters are blank. -/
def isBlankText (s : String) : Bool := s.toList.all isBlank

variable {cs : List Char}

/-- Nothing is left of a text just in case all of it is blank. -/
theorem trimStart_eq_nil_iff : trimStart cs = [] ↔ ∀ c ∈ cs, isBlank c := by
  induction cs with
  | nil => exact iff_of_true rfl fun _ h => absurd h List.not_mem_nil
  | cons c cs ih =>
    rw [trimStart, List.dropWhile_cons, List.forall_mem_cons]
    split
    · next hc => rw [and_iff_right hc, ← ih, trimStart]
    · next hc => exact iff_of_false (List.cons_ne_nil c cs) fun h => hc h.1

/-- The characters that are taken off are blank anyway. -/
theorem forall_mem_trimStart :
    (∀ c ∈ trimStart cs, isBlank c) ↔ ∀ c ∈ cs, isBlank c := by
  constructor
  · intro h c hc
    -- What is taken off is blank, and what is left is blank by assumption.
    rw [← List.takeWhile_append_dropWhile (p := isBlank) (l := cs), List.mem_append] at hc
    exact hc.elim (List.all_eq_true.1 List.all_takeWhile c) (h c)
  · intro h c hc
    exact h c ((List.dropWhile_sublist _).subset hc)

/-- **Blank texts** are those of which trimming leaves nothing. -/
theorem trim_eq_empty_iff {s : String} : trim s = "" ↔ isBlankText s := by
  rw [trim, String.ofList_eq_empty_iff, trimEnd, List.reverse_eq_nil_iff, trimStart_eq_nil_iff,
    isBlankText, List.all_eq_true]
  simp only [List.mem_reverse]
  exact forall_mem_trimStart

/-! ### Trimmed texts -/

/-- **Trimmed:** the text neither begins nor ends with a blank. -/
structure IsTrimmed (s : String) : Prop where
  head : ∀ c ∈ s.toList.head?, ¬isBlank c
  last : ∀ c ∈ s.toList.getLast?, ¬isBlank c

/-- **Trimming a text** takes blanks away at both ends, until there are no more. -/
structure Trims (s t : String) : Prop where
  margins : ∃ left right : List Char, s.toList = left ++ t.toList ++ right ∧
    (∀ c ∈ left, isBlank c) ∧ ∀ c ∈ right, isBlank c
  trimmed : IsTrimmed t

/-- After trimming the start, no blank stands there. -/
theorem head?_trimStart (cs : List Char) : ∀ c ∈ (trimStart cs).head?, ¬isBlank c := by
  intro c hc
  have hnot := List.head?_dropWhile_not isBlank cs
  rw [← trimStart, Option.mem_def.1 hc] at hnot
  exact Bool.eq_false_iff.1 hnot

/-- What is taken off at the start. -/
theorem exists_append_trimStart (cs : List Char) :
    ∃ left, cs = left ++ trimStart cs ∧ ∀ c ∈ left, isBlank c :=
  ⟨cs.takeWhile isBlank, List.takeWhile_append_dropWhile.symm,
    List.all_eq_true.1 List.all_takeWhile⟩

/-- What is taken off at the end. -/
theorem exists_trimEnd_append (cs : List Char) :
    ∃ right, cs = trimEnd cs ++ right ∧ ∀ c ∈ right, isBlank c := by
  -- The end is the start of the reversed text.
  obtain ⟨left, hleft, hblank⟩ := exists_append_trimStart cs.reverse
  refine ⟨left.reverse, ?_, fun c hc => hblank c (List.mem_reverse.1 hc)⟩
  rw [trimEnd, ← List.reverse_append, ← hleft, List.reverse_reverse]

/-- **Trimming** takes blanks from both ends and leaves a trimmed text. -/
theorem trims_trim (s : String) : Trims s (trim s) := by
  obtain ⟨left, hleft, hleftBlank⟩ := exists_append_trimStart s.toList
  obtain ⟨right, hright, hrightBlank⟩ := exists_trimEnd_append (trimStart s.toList)
  have htrim : (trim s).toList = trimEnd (trimStart s.toList) := String.toList_ofList
  refine ⟨⟨left, right, ?_, hleftBlank, hrightBlank⟩, ⟨?_, ?_⟩⟩
  · rw [htrim, List.append_assoc, ← hright]
    exact hleft
  · -- The text begins where the start has been trimmed, if there is anything left of it.
    intro c hc
    refine head?_trimStart s.toList c ?_
    rw [hright, List.head?_append, ← htrim, Option.mem_def.1 hc]
    rfl
  · -- The last character is the first one of the reversed text, which was trimmed last.
    intro c hc
    rw [htrim, trimEnd, List.getLast?_reverse] at hc
    exact head?_trimStart _ c hc

/-- Where no blank stands at the start there is nothing to trim. -/
theorem trimStart_of_head {cs : List Char} (h : ∀ c ∈ cs.head?, ¬isBlank c) :
    trimStart cs = cs := by
  cases cs with
  | nil => rfl
  | cons c cs => exact List.dropWhile_cons_of_neg (h c rfl)

/-- A trimmed text stays as it is. -/
theorem IsTrimmed.trim_eq {s : String} (h : IsTrimmed s) : trim s = s := by
  have hend : trimStart s.toList.reverse = s.toList.reverse :=
    trimStart_of_head (by rw [List.head?_reverse]; exact h.last)
  rw [trim, trimStart_of_head h.head, trimEnd, hend, List.reverse_reverse, String.ofList_toList]

end SchemaDiagram.Text
