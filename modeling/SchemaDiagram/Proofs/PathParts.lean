import Mathlib.Data.List.TakeWhile
import SchemaDiagram.Path
import SchemaDiagram.Proofs.Pieces

/-!
# The parts of a path

A path that ends with a name leads to a file in a directory (`Names`), and the name of the file has
a stem and sometimes an extension (`SplitsName`). Any other path is a directory. `HasParts` says all
of this about the components of a path and without a way to find the parts; `hasParts` shows that
`directory`, `stem` and `extension?` find them.

* `componentsOf_append_slash`: a slash separates components, wherever it stands;
* `components_join`: an entry of a directory has the components of the directory and its own;
* `names_directory`: a path that ends with a name leads into its directory;
* `directory_join`: the directory of an entry is the directory, as the same text.

`directory` trims the reversed path twice, behind the name and in front of it. Trimming changes no
component (`componentsOf_trimReversed`) and reaches a form in which the last piece counts
(`Trimmed`), so both facts come down to the last slash of a trimmed path
(`Trimmed.componentsOf_eq`).
-/

namespace SchemaDiagram.Path

/-! ### Components of joined texts -/

/-- The components of the path with these characters. -/
def componentsOf (cs : List Char) : List Component := ofPieces (Text.pieces '/' cs)

/-- The components of a path are those of its characters. -/
theorem components_eq (path : String) : components path = componentsOf path.toList := rfl

/-- A first piece that is neither empty nor a dot is read like all other pieces. -/
theorem ofPieces_of_ordinary {first : List Char} (hempty : first ≠ []) (hdot : first ≠ ['.'])
    (others : List (List Char)) :
    ofPieces (first :: others) = (first :: others).filterMap inner? := by
  unfold ofPieces
  split
  · next h => cases h
  · next h => exact absurd (List.cons.inj h).1 hdot
  · next h => exact absurd (List.cons.inj h).1 hempty
  · rfl

/-- Only the first piece of a path has a meaning of its own. -/
theorem ofPieces_append {pieces : List (List Char)} (hne : pieces ≠ []) (hroot : pieces ≠ [[]])
    (others : List (List Char)) :
    ofPieces (pieces ++ others) = ofPieces pieces ++ others.filterMap inner? := by
  obtain ⟨first, pieces, rfl⟩ := List.exists_cons_of_ne_nil hne
  by_cases hempty : first = []
  · -- The path starts with a slash, and there is something behind it.
    subst hempty
    obtain ⟨piece, pieces, rfl⟩ := List.exists_cons_of_ne_nil fun h => hroot (congrArg _ h)
    change Component.root :: (piece :: pieces ++ others).filterMap inner? = _
    rw [List.filterMap_append]
    rfl
  · -- The path starts with a dot, which counts at this place only, or with an ordinary piece.
    by_cases hdot : first = ['.']
    · subst hdot
      change Component.current :: (pieces ++ others).filterMap inner? = _
      rw [List.filterMap_append]
      rfl
    · rw [List.cons_append, ofPieces_of_ordinary hempty hdot, ofPieces_of_ordinary hempty hdot,
        ← List.cons_append, List.filterMap_append]

/-- Only the empty text has a single empty piece. -/
theorem pieces_ne_singleton_nil {cs : List Char} (h : cs ≠ []) : Text.pieces '/' cs ≠ [[]] := by
  intro hroot
  refine h ?_
  rw [← Text.intercalate_pieces '/' cs, hroot, List.intercalate_singleton]

/-- A slash at the end does not count, unless it is the root. -/
theorem componentsOf_concat_slash {cs : List Char} (h : cs ≠ []) :
    componentsOf (cs ++ ['/']) = componentsOf cs := by
  rw [componentsOf, Text.pieces_append_separator, Text.pieces,
    -- The slash leaves an empty piece behind it, and empty pieces do not count.
    ofPieces_append (Text.pieces_ne_nil _ _) (pieces_ne_singleton_nil h)]
  exact List.append_nil _

/-- **Components behind a slash** follow those of the path up to the slash. -/
theorem componentsOf_append_slash (cs ds : List Char) : componentsOf (cs ++ '/' :: ds) =
    componentsOf (cs ++ ['/']) ++ (Text.pieces '/' ds).filterMap inner? := by
  by_cases h : cs = []
  · -- A slash in front of everything is the root and not a separator.
    subst h
    obtain ⟨piece, pieces, hds⟩ := List.exists_cons_of_ne_nil (Text.pieces_ne_nil '/' ds)
    have hfirst : Text.pieces '/' ('/' :: ds) = [] :: Text.pieces '/' ds := if_pos rfl
    rw [List.nil_append, componentsOf, hfirst, hds]
    rfl
  · rw [componentsOf_concat_slash h, componentsOf, Text.pieces_append_separator,
      ofPieces_append (Text.pieces_ne_nil _ _) (pieces_ne_singleton_nil h), componentsOf]

/-- **A last piece** gives the last component, if it counts at all. -/
theorem componentsOf_last_piece {piece : List Char} (h : '/' ∉ piece) (before : List Char) :
    componentsOf (before ++ '/' :: piece) =
      componentsOf (before ++ ['/']) ++ (inner? piece).toList := by
  rw [componentsOf_append_slash, Text.pieces_of_not_mem h, List.filterMap_cons]
  cases inner? piece <;> rfl

/-- The component of a path without slashes. -/
theorem componentsOf_of_not_mem {cs : List Char} (h : '/' ∉ cs) :
    componentsOf cs = if cs = ['.'] then [.current] else (inner? cs).toList := by
  rw [componentsOf, Text.pieces_of_not_mem h]
  split
  · next hdot => rw [hdot]; rfl
  · next hdot =>
    by_cases hempty : cs = []
    · rw [hempty]; rfl
    · rw [ofPieces_of_ordinary hempty hdot, List.filterMap_cons]
      cases inner? cs <;> rfl

/-- Empty pieces and dots do not count. -/
theorem inner?_eq_none_iff {piece : List Char} :
    inner? piece = none ↔ piece = [] ∨ piece = ['.'] := by
  unfold inner?
  split
  · next h => exact iff_of_true rfl h
  · next h => exact iff_of_false (by split <;> exact Option.some_ne_none _) h

/-- Any other piece is a name, unless it is two dots. -/
theorem inner?_of_ordinary {piece : List Char} (hempty : piece ≠ []) (hdot : piece ≠ ['.'])
    (hdots : piece ≠ ['.', '.']) : inner? piece = some (.name (String.ofList piece)) := by
  rw [inner?, if_neg (not_or.2 ⟨hempty, hdot⟩), if_neg hdots]

/-! ### Entries of directories -/

/-- Between a directory and a name there is one slash, unless the directory is the empty text. -/
theorem join_cases (directory name : String) :
    directory = "" ∧ join directory name = name ∨
      ∃ before, (join directory name).toList = before ++ '/' :: name.toList ∧
        (directory.toList = before ++ ['/'] ∨ before ≠ [] ∧ directory.toList = before) := by
  unfold join
  split
  · next hnil =>
    have hdirectory : directory = "" := by
      rw [← String.toList_inj]
      exact List.getLast?_eq_none_iff.1 hnil
    exact .inl ⟨hdirectory, by rw [hdirectory, String.empty_append]⟩
  · next hslash =>
    obtain ⟨before, hbefore⟩ := List.getLast?_eq_some_iff.1 hslash
    refine .inr ⟨before, ?_, .inl hbefore⟩
    rw [String.toList_append, hbefore, List.append_assoc, List.singleton_append]
  · -- The directory has a last character other than a slash, so it is not empty.
    next hlast =>
    refine .inr ⟨directory.toList, ?_, .inr ⟨fun hnil => ?_, rfl⟩⟩
    · rw [String.toList_append, String.toList_append, List.append_assoc]
      rfl
    · rw [hnil] at hlast
      cases hlast

/-- What is put behind the name is put behind the path. -/
theorem join_append (directory name text : String) :
    join directory (name ++ text) = join directory name ++ text := by
  unfold join
  split <;> simp only [String.append_assoc]

/-- **Components of an entry.** A name that starts neither with a slash nor with a piece that does
not count keeps its own components. -/
theorem components_join (directory : String) {name : String} {first : List Char}
    {others : List (List Char)} (hname : Text.pieces '/' name.toList = first :: others)
    (hempty : first ≠ []) (hdot : first ≠ ['.']) :
    components (join directory name) = components directory ++ components name := by
  -- The name is the whole path, or a slash stands in front of it and separates the components.
  obtain ⟨rfl, hjoin⟩ | ⟨before, hjoin, hdirectory⟩ := join_cases directory name
  · rw [hjoin]
    rfl
  · have hself : components name = (Text.pieces '/' name.toList).filterMap inner? := by
      rw [components, hname, ofPieces_of_ordinary hempty hdot]
    have hbefore : components directory = componentsOf (before ++ ['/']) := by
      obtain hdirectory | ⟨hne, hdirectory⟩ := hdirectory
      · rw [components_eq, hdirectory]
      · rw [components_eq, hdirectory, componentsOf_concat_slash hne]
    rw [hself, hbefore, components_eq, hjoin, componentsOf_append_slash]

/-! ### What does not count at the end -/

/-- **Trimmed:** a reversed path ends neither with a slash nor with a `.` behind a slash, but for
the slash that is the whole path. -/
structure Trimmed (cs : List Char) : Prop where
  slash : ∀ rest, cs = '/' :: rest → rest = []
  dot : ∀ rest, cs ≠ '.' :: '/' :: rest

/-- What trimming leaves is trimmed. -/
theorem trimmed_trimReversed (cs : List Char) : Trimmed (trimReversed cs) := by
  -- Trimming stops where neither of its two cases applies, and these are the two that are excluded.
  fun_induction trimReversed cs with
  | case1 c cs ih => exact ih
  | case2 cs ih => exact ih
  | case3 cs hslash hdot =>
    refine ⟨fun rest hcs => ?_, hdot⟩
    cases rest with
    | nil => rfl
    | cons c rest => exact absurd hcs (hslash c rest)

/-- A trimmed path stays as it is. -/
theorem Trimmed.trimReversed_eq {cs : List Char} (h : Trimmed cs) : trimReversed cs = cs := by
  unfold trimReversed
  split
  · next c rest => cases h.slash _ rfl
  · next rest => exact absurd rfl (h.dot rest)
  · rfl

/-- Trimming takes characters off one end only. -/
theorem trimReversed_suffix (cs : List Char) : trimReversed cs <:+ cs := by
  fun_induction trimReversed cs with
  | case1 c cs ih => exact ih.trans (List.suffix_cons _ _)
  | case2 cs ih => exact ih.trans (List.suffix_cons _ _)
  | case3 cs => exact List.suffix_refl cs

/-- **Trimming** changes no component. -/
theorem componentsOf_trimReversed (cs : List Char) :
    componentsOf (trimReversed cs).reverse = componentsOf cs.reverse := by
  -- Each step of trimming takes off what does not count: a slash behind something, or a dot behind
  -- a slash.
  fun_induction trimReversed cs with
  | case1 c cs ih =>
    have hne : (c :: cs).reverse ≠ [] := List.reverse_ne_nil_iff.2 (List.cons_ne_nil c cs)
    rw [ih, List.reverse_cons (a := '/'), componentsOf_concat_slash hne]
  | case2 cs ih =>
    have hdot : ('.' :: '/' :: cs).reverse = cs.reverse ++ '/' :: ['.'] := by
      rw [List.reverse_cons, List.reverse_cons, List.append_assoc]
      rfl
    rw [ih, hdot, componentsOf_append_slash, List.reverse_cons]
    exact (List.append_nil _).symm
  | case3 => rfl

/-- A piece that counts leaves nothing to trim. -/
theorem trimmed_append {piece : List Char} (hslash : '/' ∉ piece) (hempty : piece ≠ [])
    (hdot : piece ≠ ['.']) (rest : List Char) : Trimmed (piece ++ rest) := by
  obtain ⟨c, piece, rfl⟩ := List.exists_cons_of_ne_nil hempty
  refine ⟨fun others hcs => ?_, fun others hcs => ?_⟩
  · obtain ⟨rfl, -⟩ := List.cons.inj hcs
    exact absurd List.mem_cons_self hslash
  · obtain ⟨rfl, hrest⟩ := List.cons.inj hcs
    -- There is a second character in the piece, and it would be the slash.
    obtain ⟨d, piece, rfl⟩ := List.exists_cons_of_ne_nil fun h => hdot (congrArg _ h)
    have hd : d = '/' := (List.cons.inj hrest).1
    exact hslash (List.mem_cons_of_mem _ (hd ▸ List.mem_cons_self))

/-! ### Directory and file name -/

/-- **Naming:** the path leads into a directory and ends with the name of a file in it. The
directory is what the path starts with, without what does not count in front of the name. -/
structure Names (path directory name : String) : Prop where
  begins : directory.toList <+: path.toList
  trimmed : Trimmed directory.toList.reverse
  components_eq : components path = components directory ++ [.name name]

/-- The file name of a path is the name at its end. -/
theorem fileName?_eq_some_iff {path name : String} :
    fileName? path = some name ↔ (components path).getLast? = some (.name name) := by
  unfold fileName?
  split
  · next text htext => rw [htext, Option.some.injEq, Option.some.injEq, Component.name.injEq]
  · next hnot => exact iff_of_false (by simp) (hnot name)

/-- A list splits at the first place of a character, if there is one. -/
theorem dropWhile_ne_cases (c : Char) (cs : List Char) :
    c ∉ cs ∧ cs.dropWhile (· ≠ c) = [] ∨
      ∃ rest, cs = cs.takeWhile (· ≠ c) ++ c :: rest ∧ cs.dropWhile (· ≠ c) = c :: rest := by
  cases hrest : cs.dropWhile (· ≠ c) with
  | nil =>
    refine .inl ⟨fun hmem => ?_, rfl⟩
    exact of_decide_eq_true (List.dropWhile_eq_nil_iff.1 hrest c hmem) rfl
  | cons first rest =>
    have hfirst : first = c := by
      have hhead := List.head?_dropWhile_not (· ≠ c) cs
      rw [hrest] at hhead
      exact Decidable.of_not_not (of_decide_eq_false hhead)
    subst hfirst
    refine .inr ⟨rest, ?_, rfl⟩
    rw [← hrest, List.takeWhile_append_dropWhile]

/-- The characters up to the first place of a character do not contain it. -/
theorem not_mem_takeWhile_ne (c : Char) (cs : List Char) : c ∉ cs.takeWhile (· ≠ c) := by
  intro hmem
  have hne := List.mem_takeWhile_imp hmem
  exact of_decide_eq_true hne rfl

/-- A trimmed path that ends with a name ends with its last piece. -/
theorem Trimmed.componentsOf_eq {cs : List Char} {name : String} (h : Trimmed cs)
    (hname : (componentsOf cs.reverse).getLast? = some (.name name)) :
    componentsOf cs.reverse =
      componentsOf (cs.dropWhile (· ≠ '/')).reverse ++ [.name name] := by
  -- The last piece is the whole path, or what stands behind the last slash.
  obtain ⟨hmem, hdrop⟩ | ⟨before, hcs, hdrop⟩ := dropWhile_ne_cases '/' cs
  · -- The path is a name alone.
    rw [hdrop]
    rw [componentsOf_of_not_mem (by rwa [List.mem_reverse])] at hname ⊢
    split at hname
    · cases hname
    · next hdot =>
      rw [if_neg hdot]
      cases hinner : inner? cs.reverse with
      | none => rw [hinner] at hname; cases hname
      | some component =>
        rw [hinner] at hname
        obtain rfl := Option.some.inj hname
        rfl
  · -- The path ends with what stands behind its last slash, read backwards in front of the first
    -- one.
    have hpiece := not_mem_takeWhile_ne '/' cs
    generalize cs.takeWhile (· ≠ '/') = piece at hcs hpiece
    have hreverse : cs.reverse = before.reverse ++ '/' :: piece.reverse := by
      rw [hcs, List.reverse_append, List.reverse_cons, List.append_assoc, List.singleton_append]
    rw [hdrop, List.reverse_cons, hreverse, componentsOf_last_piece (by rwa [List.mem_reverse])]
    rw [hreverse, componentsOf_last_piece (by rwa [List.mem_reverse])] at hname
    cases hinner : inner? piece.reverse with
    | some component =>
      rw [hinner, Option.toList_some, List.getLast?_concat] at hname
      rw [Option.some.inj hname]
      rfl
    | none =>
      -- A trimmed path has no last piece that does not count, but for the root.
      obtain hempty | hdot := inner?_eq_none_iff.1 hinner
      · rw [List.reverse_eq_nil_iff.1 hempty, List.nil_append] at hcs
        rw [h.slash before hcs, hinner] at hname
        cases hname
      · rw [List.reverse_eq_iff.1 hdot] at hcs
        exact absurd hcs (h.dot before)

/-- The directory is found on the reversed path: trimmed, behind its first slash, trimmed again. -/
theorem toList_directory (path : String) : (directory path).toList =
    (trimReversed ((trimReversed path.toList.reverse).dropWhile (· ≠ '/'))).reverse :=
  String.toList_ofList

/-- **The directory of a file.** -/
theorem names_directory {path name : String} (h : fileName? path = some name) :
    Names path (directory path) name where
  begins := by
    -- Each of the three steps takes characters off the end of the path.
    rw [toList_directory, ← List.reverse_suffix, List.reverse_reverse]
    exact (trimReversed_suffix _).trans
      ((List.dropWhile_suffix _).trans (trimReversed_suffix _))
  trimmed := by
    rw [toList_directory, List.reverse_reverse]
    exact trimmed_trimReversed _
  components_eq := by
    -- Both trimmings keep the components, and the name stands behind the last slash in between.
    have hpath : components path = componentsOf (trimReversed path.toList.reverse).reverse := by
      rw [componentsOf_trimReversed, List.reverse_reverse, components_eq]
    rw [fileName?_eq_some_iff, hpath] at h
    rw [hpath, (trimmed_trimReversed _).componentsOf_eq h, components_eq, toList_directory,
      componentsOf_trimReversed]

/-- **The directory of an entry** is the directory. -/
theorem directory_join {directory name : String} (hdirectory : Trimmed directory.toList.reverse)
    (hslash : '/' ∉ name.toList) (hempty : name.toList ≠ []) (hdot : name.toList ≠ ['.']) :
    Path.directory (join directory name) = directory := by
  -- Nothing is trimmed behind the name, and then the name itself is taken off.
  have hname : ∀ rest, (trimReversed (name.toList.reverse ++ rest)).dropWhile (· ≠ '/') =
      rest.dropWhile (· ≠ '/') := by
    intro rest
    have htrimmed : Trimmed (name.toList.reverse ++ rest) := by
      refine trimmed_append (by rwa [List.mem_reverse]) ?_ ?_ rest
      · exact fun h => hempty (List.reverse_eq_nil_iff.1 h)
      · exact fun h => hdot (List.reverse_eq_iff.1 h)
    rw [htrimmed.trimReversed_eq, List.dropWhile_append_of_pos]
    intro c hc
    refine decide_eq_true ?_
    rintro rfl
    exact hslash (List.mem_reverse.1 hc)
  rw [← String.toList_inj, toList_directory]
  obtain ⟨rfl, hjoin⟩ | ⟨before, hjoin, hbefore⟩ := join_cases directory name
  · -- The directory is the empty text, and taking the name off leaves nothing.
    have hnil := hname []
    rw [List.append_nil] at hnil
    rw [hjoin, hnil]
    rfl
  · -- A slash stands behind the directory, and it is the last one of the path.
    rw [hjoin, List.reverse_append, List.reverse_cons, List.append_assoc, List.singleton_append,
      hname, List.dropWhile_cons_of_neg (by simp)]
    have htrimmed := hdirectory.trimReversed_eq
    obtain hbefore | ⟨hne, hbefore⟩ := hbefore
    · -- The slash belongs to the directory, which is trimmed and hence the root.
      rw [hbefore, List.reverse_append] at htrimmed
      rw [hbefore]
      exact List.reverse_eq_iff.2 (htrimmed.trans List.reverse_append.symm)
    · -- The slash in front of the name does not count.
      rw [hbefore] at htrimmed ⊢
      obtain ⟨c, cs, hcs⟩ := List.exists_cons_of_ne_nil (List.reverse_ne_nil_iff.2 hne)
      rw [hcs, trimReversed, ← hcs, htrimmed, List.reverse_reverse]

/-! ### Stem and extension -/

/-- **Stem and extension of a name.** The extension stands behind the last dot, unless this dot is
the first character; then the whole name is the stem. -/
inductive SplitsName : String → String → Option String → Prop
  | whole {name : String} (h : '.' ∉ name.toList.tail) : SplitsName name name none
  | atDot {stem extension : String} (hstem : stem ≠ "") (h : '.' ∉ extension.toList) :
      SplitsName (stem ++ "." ++ extension) stem (some extension)

/-- A text that does not split has no dot. -/
theorem splitLastDot_eq_none {cs : List Char} (h : splitLastDot cs = none) : '.' ∉ cs := by
  unfold splitLastDot at h
  dsimp only at h
  obtain ⟨hmem, -⟩ | ⟨rest, -, hdrop⟩ := dropWhile_ne_cases '.' cs.reverse
  · rwa [List.mem_reverse] at hmem
  · rw [hdrop] at h
    cases h

/-- A text splits at its last dot. -/
theorem splitLastDot_eq_some {cs before after : List Char}
    (h : splitLastDot cs = some (before, after)) : cs = before ++ '.' :: after ∧ '.' ∉ after := by
  unfold splitLastDot at h
  dsimp only at h
  obtain ⟨-, hdrop⟩ | ⟨rest, hcs, hdrop⟩ := dropWhile_ne_cases '.' cs.reverse
  · rw [hdrop] at h
    cases h
  · -- The characters are reversed, so what stands before the dot is left over after it.
    rw [hdrop] at h
    obtain ⟨rfl, rfl⟩ := Prod.mk.inj (Option.some.inj h)
    constructor
    · calc cs = cs.reverse.reverse := (List.reverse_reverse cs).symm
        _ = (cs.reverse.takeWhile (· ≠ '.') ++ '.' :: rest).reverse := congrArg List.reverse hcs
        _ = rest.reverse ++ '.' :: (cs.reverse.takeWhile (· ≠ '.')).reverse := by
          rw [List.reverse_append, List.reverse_cons, List.append_assoc, List.singleton_append]
    · rw [List.mem_reverse]
      exact not_mem_takeWhile_ne '.' cs.reverse

/-- **Any name splits** into a stem and an extension. -/
theorem splitsName (name : String) : SplitsName name (splitName name).1 (splitName name).2 := by
  unfold splitName
  split
  · -- There is no dot at all.
    next h => exact .whole fun hdot => splitLastDot_eq_none h (List.mem_of_mem_tail hdot)
  · -- The only dot is the first character, and no part of what stands behind it.
    next after h =>
    obtain ⟨hname, hafter⟩ := splitLastDot_eq_some h
    refine .whole ?_
    rw [hname]
    exact hafter
  · -- There is a stem in front of the last dot, so the dot separates.
    next before after hne h =>
    obtain ⟨hname, hafter⟩ := splitLastDot_eq_some h
    have htext : name = String.ofList before ++ "." ++ String.ofList after := by
      rw [← String.toList_inj, hname]
      simp only [String.toList_append, String.toList_ofList, List.append_assoc]
      rfl
    have hsplit : SplitsName (String.ofList before ++ "." ++ String.ofList after)
        (String.ofList before) (some (String.ofList after)) := by
      refine .atDot (fun hempty => hne (String.ofList_eq_empty_iff.1 hempty)) ?_
      rwa [String.toList_ofList]
    rwa [← htext] at hsplit

/-- Only an empty name has an empty stem. -/
theorem SplitsName.stem_ne_empty {name stem : String} {extension : Option String}
    (h : SplitsName name stem extension) (hname : name ≠ "") : stem ≠ "" := by
  cases h with
  | whole h => exact hname
  | atDot hstem h => exact hstem

/-- The two parts hold no other characters than the name. -/
theorem SplitsName.not_mem {name stem : String} {extension : Option String} {c : Char}
    (h : SplitsName name stem extension) (hc : c ∉ name.toList) :
    c ∉ stem.toList ∧ ∀ text, extension = some text → c ∉ text.toList := by
  cases h with
  | whole h =>
    refine ⟨hc, fun text htext => ?_⟩
    cases htext
  | atDot hstem h =>
    simp only [String.toList_append, List.mem_append, not_or] at hc
    refine ⟨hc.1.1, fun text htext => ?_⟩
    rw [← Option.some.inj htext]
    exact hc.2

/-- Stem and extension of a path are those of its file name. -/
theorem splitsName_of_fileName? {path name : String} (h : fileName? path = some name) :
    SplitsName name (stem path) (extension? path) := by
  rw [stem, extension?, h]
  exact splitsName name

/-! ### All parts -/

/-- **A path in parts:** directory, stem and extension. A path that does not end with a name is
itself the directory. -/
inductive HasParts (path : String) : String → String → Option String → Prop
  | named {directory name stem : String} {extension : Option String}
      (hnames : Names path directory name) (hsplit : SplitsName name stem extension) :
      HasParts path directory stem extension
  | unnamed (h : ∀ name, (components path).getLast? ≠ some (.name name)) :
      HasParts path path "" none

/-- The directory of a path, which is the path itself if it does not end with a name. -/
def base (path : String) : String :=
  match fileName? path with
  | some _ => directory path
  | none => path

/-- The base of a path that ends with a name is its directory. -/
theorem base_of_fileName? {path name : String} (h : fileName? path = some name) :
    base path = directory path := by
  rw [base, h]

/-- **The parts of any path.** -/
theorem hasParts (path : String) : HasParts path (base path) (stem path) (extension? path) := by
  unfold base stem extension?
  cases h : fileName? path with
  | some name => exact .named (names_directory h) (splitsName name)
  | none =>
    refine .unnamed fun name hname => ?_
    rw [fileName?_eq_some_iff.2 hname] at h
    cases h

/-- A path with another file name is an entry of the base. -/
theorem withFileName_eq (path name : String) : withFileName path name = join (base path) name := by
  unfold withFileName base
  cases fileName? path <;> rfl

end SchemaDiagram.Path
