import SchemaDiagram.Proofs.Files
import SchemaDiagram.Proofs.PathParts
import SchemaDiagram.Settings.Resolve

/-!
# The files of several schemas

The document of one of several schemas goes to the configured path with another file name
(`schemaOutputPath_eq`), in which the name of the schema stands between stem and extension
(`documentName`). Stem and extension hold no slash, so the slashes of the file name are those of the
schema (`not_mem_documentName`).

As long as there are none, the file name stays in the last piece of the path, which is the name of
the file that the path leads to (`FileTree.LeadsTo.last_piece`). So schemas with different names of
that kind have different files (`schemaOutputPath_inj_of_leadsTo`).
-/

namespace SchemaDiagram

/-! ### Components and pieces -/

namespace Path

/-- The components of a path are those of its pieces, but for the first one. -/
theorem ofPieces_eq (pieces : List (List Char)) : ∃ first others,
    ofPieces pieces = first ++ others.filterMap inner? ∧ (∀ text, .name text ∉ first) ∧
      others ⊆ pieces ∧
      (pieces.getLast? ≠ some ['.'] → others.getLast? = pieces.getLast?) := by
  unfold ofPieces
  -- The first piece is a dot, or empty with something behind it, or a piece like all others.
  split
  · exact ⟨[], [], rfl, by simp, by simp, fun _ => rfl⟩
  · next rest =>
    refine ⟨[.current], rest, rfl, by simp, List.subset_cons_self _ _, fun h => ?_⟩
    cases rest with
    | nil => exact absurd rfl h
    | cons piece rest => rw [List.getLast?_cons_cons]
  · next piece rest =>
    exact ⟨[.root], piece :: rest, rfl, by simp, List.subset_cons_self _ _, fun _ => by
      rw [List.getLast?_cons_cons]⟩
  · next rest _ _ _ => exact ⟨[], _, rfl, by simp, fun _ h => h, fun _ => rfl⟩

/-- A piece that is read as a name is this name. -/
theorem inner?_eq_name {piece : List Char} {text : String} (h : inner? piece = some (.name text)) :
    text.toList = piece := by
  unfold inner? at h
  split at h
  · cases h
  · split at h
    · cases h
    · rw [← Component.name.inj (Option.some.inj h), String.toList_ofList]

/-- A name among the components is a piece of the path that counts as a name. -/
theorem piece_of_mem_components {path text : String} (h : .name text ∈ components path) :
    text.toList ∈ Text.pieces '/' path.toList ∧ inner? text.toList = some (.name text) := by
  obtain ⟨first, others, heq, hfirst, hsubset, -⟩ := ofPieces_eq (Text.pieces '/' path.toList)
  -- What the first piece means is no name, so the name comes from the other ones.
  rw [components, heq, List.mem_append] at h
  obtain ⟨piece, hpiece, hinner⟩ := List.mem_filterMap.1 (h.resolve_left (hfirst text))
  obtain rfl := inner?_eq_name hinner
  exact ⟨hsubset hpiece, hinner⟩

/-- A path that ends with a name ends with the last of its components. -/
theorem last_piece_of_components {path text : String}
    (h : (components path).getLast? = some (.name text)) (hending : ending path = .name) :
    (Text.pieces '/' path.toList).getLast? = some text.toList := by
  obtain ⟨first, others, heq, -, -, hlast⟩ := ofPieces_eq (Text.pieces '/' path.toList)
  -- The four endings without a name are excluded.
  unfold ending at hending
  split at hending
  · cases hending
  · cases hending
  · cases hending
  · cases hending
  · next piece hempty hdot hdots hpiece =>
    -- The last piece counts, and it is a name.
    have hinner : inner? piece = some (.name (String.ofList piece)) :=
      inner?_of_ordinary hempty hdot hdots
    rw [hpiece] at hlast
    have hsame := hlast fun heq => hdot (Option.some.inj heq)
    obtain ⟨before, rfl⟩ := List.getLast?_eq_some_iff.1 hsame
    rw [components, heq, List.filterMap_append, List.filterMap_cons, hinner, List.filterMap_nil,
      ← List.append_assoc, List.getLast?_concat] at h
    rw [hpiece, ← Component.name.inj (Option.some.inj h), String.toList_ofList]

/-- The last piece of a path with a file name put in is this name. -/
theorem last_piece_withFileName (path : String) {name : String} (h : '/' ∉ name.toList) :
    (Text.pieces '/' (withFileName path name).toList).getLast? = some name.toList := by
  rw [withFileName_eq]
  -- The name comes after a slash, unless there is no directory.
  obtain ⟨-, hjoin⟩ | ⟨before, hjoin, -⟩ := join_cases (base path) name
  · rw [hjoin, Text.pieces_of_not_mem h]
    rfl
  · rw [hjoin, Text.pieces_append_separator, Text.pieces_of_not_mem h, List.getLast?_concat]

/-- A file name holds no slash. -/
theorem not_mem_fileName {path name : String} (h : fileName? path = some name) :
    '/' ∉ name.toList := by
  -- It is a component, and components are pieces.
  have hmem := List.mem_of_getLast? (fileName?_eq_some_iff.1 h)
  exact Text.not_mem_of_mem_pieces (piece_of_mem_components hmem).1

/-- A file name is not empty. -/
theorem fileName_ne_empty {path name : String} (h : fileName? path = some name) : name ≠ "" := by
  rintro rfl
  have hmem := List.mem_of_getLast? (fileName?_eq_some_iff.1 h)
  -- The empty piece is read as nothing.
  have hinner := (piece_of_mem_components hmem).2
  cases hinner

/-- The stem of a file name is not empty. -/
theorem stem_ne_empty {path name : String} (h : fileName? path = some name) : stem path ≠ "" :=
  (splitsName_of_fileName? h).stem_ne_empty (fileName_ne_empty h)

/-- The stem of a path holds no slash. -/
theorem not_mem_stem (path : String) : '/' ∉ (stem path).toList := by
  cases h : fileName? path with
  | some name => exact ((splitsName_of_fileName? h).not_mem (not_mem_fileName h)).1
  | none =>
    -- A path without a file name has the empty stem.
    rw [stem, h]
    exact List.not_mem_nil

/-- The extension of a path holds no slash. -/
theorem not_mem_extension {path extension : String} (h : extension? path = some extension) :
    '/' ∉ extension.toList := by
  obtain ⟨name, hname, -⟩ := Option.bind_eq_some_iff.1 h
  exact ((splitsName_of_fileName? hname).not_mem (not_mem_fileName hname)).2 extension h

end Path

/-! ### Files -/

/-- A path leads to the file of its last component, in the directory of the components before. -/
theorem FileTree.LeadsTo.components {tree : FileTree} {path : String} {place : List String}
    (h : tree.LeadsTo path place) : ∃ directory name, place = directory ++ [name] ∧
      (Path.components path).getLast? = some (.name name) ∧ Path.ending path = .name ∧
      tree.enterAll (Path.components path).dropLast = .ok directory := by
  obtain ⟨directory, name, hlocate, rfl⟩ := h
  refine ⟨directory, name, rfl, ?_⟩
  obtain ⟨_, -, hlocate⟩ := bind_eq_ok.1 hlocate
  dsimp only at hlocate
  -- Nothing but a path that ends with a name leads to a file.
  split at hlocate
  · next text hlast hending =>
    -- A file has a name that the system takes.
    obtain ⟨place, hplace, hlocate⟩ := bind_eq_ok.1 hlocate
    split at hlocate
    · exact absurd hlocate throw_ne_ok
    · obtain ⟨rfl, rfl⟩ := Prod.mk.inj (Except.ok.inj hlocate)
      exact ⟨hlast, hending, hplace⟩
  · obtain ⟨_, -, hlocate⟩ := bind_eq_ok.1 hlocate
    exact absurd hlocate throw_ne_ok

/-- The name of the file that a path leads to is the last piece of the path. -/
theorem FileTree.LeadsTo.last_piece {tree : FileTree} {path : String} {place : List String}
    (h : tree.LeadsTo path place) : ∃ directory name, place = directory ++ [name] ∧
      (Text.pieces '/' path.toList).getLast? = some name.toList := by
  obtain ⟨directory, name, hplace, hlast, hending, -⟩ := h.components
  exact ⟨directory, name, hplace, Path.last_piece_of_components hlast hending⟩

/-! ### File names of schemas -/

/-- An extension with the dot in front of it. -/
def dotted : Option String → String
  | none => ""
  | some extension => "." ++ extension

/-- **The file name of a schema:** its name stands between stem and extension. -/
def documentName (stem schema : String) (extension : Option String) : String :=
  stem ++ "." ++ schema ++ dotted extension

/-- **The path of a schema** is the configured path with another file name. -/
theorem schemaOutputPath_eq (filename schema : String) :
    schemaOutputPath filename schema = Path.withFileName filename
      (documentName (Path.stem filename) schema (Path.extension? filename)) := by
  unfold schemaOutputPath documentName dotted
  cases Path.extension? filename with
  | none =>
    dsimp only
    rw [String.append_empty]
  | some extension =>
    dsimp only
    simp only [String.append_assoc]

/-- Slashes in the file name are those of the schema. -/
theorem not_mem_documentName {filename schema : String} :
    '/' ∉ (documentName (Path.stem filename) schema (Path.extension? filename)).toList ↔
      '/' ∉ schema.toList := by
  -- The other three parts of the file name bring no slash of their own.
  have hdotted : '/' ∉ (dotted (Path.extension? filename)).toList := by
    cases hextension : Path.extension? filename with
    | none => exact List.not_mem_nil
    | some extension =>
      rw [dotted, String.toList_append, List.mem_append, not_or]
      exact ⟨by decide, Path.not_mem_extension hextension⟩
  simp only [documentName, String.toList_append, List.mem_append, not_or]
  constructor
  · rintro ⟨⟨-, hschema⟩, -⟩
    exact hschema
  · intro hschema
    exact ⟨⟨⟨Path.not_mem_stem filename, by decide⟩, hschema⟩, hdotted⟩

/-- Different schemas have different file names. -/
theorem documentName_inj {stem a b : String} {extension : Option String}
    (h : documentName stem a extension = documentName stem b extension) : a = b := by
  simp only [documentName, ← String.toList_inj, String.toList_append] at h ⊢
  exact List.append_cancel_left (List.append_cancel_right h)

/-- **One file for each schema.** The paths of two schemas without slashes in their names lead to
one file only if the schemas have the same name. -/
theorem schemaOutputPath_inj_of_leadsTo {tree : FileTree} {filename a b : String}
    {place : List String} (ha : '/' ∉ a.toList) (hb : '/' ∉ b.toList)
    (h : tree.LeadsTo (schemaOutputPath filename a) place)
    (h' : tree.LeadsTo (schemaOutputPath filename b) place) : a = b := by
  -- One place has one name, and each path ends with the file name of its schema.
  obtain ⟨directory, name, rfl, hname⟩ := h.last_piece
  obtain ⟨directory', name', hplace, hname'⟩ := h'.last_piece
  obtain ⟨-, hsame⟩ := List.append_inj' hplace rfl
  obtain rfl := List.singleton_inj.1 hsame
  rw [schemaOutputPath_eq, Path.last_piece_withFileName _ (not_mem_documentName.2 ha)] at hname
  rw [schemaOutputPath_eq, Path.last_piece_withFileName _ (not_mem_documentName.2 hb),
    ← hname] at hname'
  exact (documentName_inj (String.toList_inj.1 (Option.some.inj hname'))).symm

end SchemaDiagram
