import Mathlib.Data.List.Nodup
import SchemaDiagram.Proofs.SchemaLists
import SchemaDiagram.Proofs.SchemaPaths

/-!
# Where the documents of several schemas go

The documents of several schemas go to several paths, which are made from the configured one. All of
them have one text in front of the name of the schema and one behind it
(`schemaOutputPath_eq_join`). So they differ as texts, whatever the configured path looks like
(`schema_paths_distinct`).

Paths are read by their slashes, and the name of a schema may hold slashes of its own. If it holds
none, the document lies beside the configured file, under a name of its own. Otherwise a part of the
name of the schema is read as a directory. `documents_beside_iff_no_slash` says both, and
`document_in_other_directory` is a case of the second kind.
-/

namespace SchemaDiagram

/-! ### The text of the paths -/

/-- **The path of a schema:** the name of the schema between two texts that all schemas share. -/
theorem schemaOutputPath_eq_join (filename schema : String) : schemaOutputPath filename schema =
    Path.join (Path.base filename) (Path.stem filename ++ ".") ++ schema ++
      dotted (Path.extension? filename) := by
  rw [schemaOutputPath_eq, Path.withFileName_eq, documentName, Path.join_append, Path.join_append]

example : ["..", "/", "a.", "..a", "a//b/."].map (schemaOutputPath · "x") =
    ["../.x", "/.x", "a.x.", "..x.a", "a/b.x"] := by
  decide

/-- Different schemas have different paths, as texts. -/
theorem schemaOutputPath_injective (filename : String) :
    Function.Injective (schemaOutputPath filename) := by
  intro a b h
  -- What stands in front of the names is the same text, and so is what stands behind them.
  simp only [schemaOutputPath_eq_join, ← String.toList_inj, String.toList_append] at h
  exact String.toList_inj.1 (List.append_cancel_left (List.append_cancel_right h))

/-- All of several schemas go to standard output, or each of them goes to a path of its own. -/
theorem Settings.targets_of_several {s : Settings} (hseveral : 1 < s.schemas.length) :
    s.targets = s.schemas.map fun schema => (schema,
      if Path.components s.filename = Path.components "-" then .standardOutput
      else .file (schemaOutputPath s.filename schema)) := by
  have hdash : Path.components "-" = [.name "-"] := by decide
  refine List.map_congr_left fun schema _ => ?_
  rw [target, hdash, if_pos hseveral]

/-- **Paths of their own.** The documents of several schemas go to files, one for each schema in
order. Their paths begin with the same text, directory and stem of the configured path and a dot, go
on with the name of the schema and end with the configured extension; no two of them are the same
text. -/
theorem schema_paths_distinct {values : SettingValues} {settings : Settings}
    (h : Settings.resolve values = .ok settings) (hseveral : 1 < settings.schemas.length)
    (hprinted : Path.components settings.filename ≠ Path.components "-") :
    Path.HasParts settings.filename (Path.base settings.filename) (Path.stem settings.filename)
        (Path.extension? settings.filename) ∧
      settings.targets = (settings.schemas.map fun schema => (schema, .file
        (Path.join (Path.base settings.filename) (Path.stem settings.filename ++ ".") ++ schema ++
          dotted (Path.extension? settings.filename)))) ∧
      (settings.targets.map Prod.snd).Nodup := by
  have htargets := Settings.targets_of_several hseveral
  simp only [if_neg hprinted] at htargets
  refine ⟨Path.hasParts settings.filename, ?_, ?_⟩
  · simp only [htargets, schemaOutputPath_eq_join]
  · -- No schema occurs twice, and different schemas have different paths.
    rw [htargets, List.map_map]
    refine List.Nodup.map (fun a b hsame => ?_) (Settings.resolve_schemas_nodup h)
    exact schemaOutputPath_injective settings.filename (OutputTarget.file.inj hsame)

/-- A hidden file with two dots, under a path with superfluous slashes. -/
def archiveValues : SettingValues :=
  { SettingValues.empty with
    schema := some ["public, billing"]
    filename := some "docs//.schema.v1.txt/" }

/-- Both paths begin with the directory, which is written with one slash, and end with the last
extension. -/
theorem schema_paths_distinct_archive :
    ∃ settings, Settings.resolve archiveValues = .ok settings ∧ 1 < settings.schemas.length ∧
      Path.components settings.filename ≠ Path.components "-" ∧
      settings.targets = [("public", .file "docs/.schema.v1.public.txt"),
        ("billing", .file "docs/.schema.v1.billing.txt")] ∧
      (settings.targets.map Prod.snd).Nodup := by
  obtain ⟨settings, hsettings, hseveral, hprinted, htargets⟩ : ∃ settings,
      Settings.resolve archiveValues = .ok settings ∧ 1 < settings.schemas.length ∧
        Path.components settings.filename ≠ Path.components "-" ∧
        settings.targets = [("public", .file "docs/.schema.v1.public.txt"),
          ("billing", .file "docs/.schema.v1.billing.txt")] :=
    -- Everything but the difference of the paths is computed.
    ⟨_, rfl, by decide, by decide, by decide⟩
  obtain ⟨-, -, hnodup⟩ := schema_paths_distinct hsettings hseveral hprinted
  exact ⟨settings, hsettings, hseveral, hprinted, htargets, hnodup⟩

/-! ### Components of the paths -/

/-- A text of more than two characters is none of the pieces that mean a directory. -/
theorem toList_ne_of_length {name : String} (hlong : 2 < name.toList.length) (piece : List Char)
    (hpiece : piece.length ≤ 2) : name.toList ≠ piece := by
  rintro rfl
  exact absurd hlong (Nat.not_lt.2 hpiece)

/-- Such a text is a name if it holds no slash. -/
theorem Path.components_of_not_mem {name : String} (hslash : '/' ∉ name.toList)
    (hlong : 2 < name.toList.length) : components name = [.name name] := by
  have hempty := toList_ne_of_length hlong [] (by decide)
  have hdot := toList_ne_of_length hlong ['.'] (by decide)
  have hdots := toList_ne_of_length hlong ['.', '.'] (by decide)
  rw [components_eq, componentsOf_of_not_mem hslash, if_neg hdot,
    inner?_of_ordinary hempty hdot hdots, Option.toList_some, String.ofList_toList]

/-- A file name has a stem, a dot and the name of a schema, so it is longer than two dots. -/
theorem length_documentName {stem schema : String} (hstem : stem ≠ "") (hschema : schema ≠ "")
    (extension : Option String) : 2 < (documentName stem schema extension).toList.length := by
  have hstemLength : 0 < stem.toList.length :=
    List.length_pos_iff.2 fun h => hstem (String.toList_eq_nil_iff.1 h)
  have hschemaLength : 0 < schema.toList.length :=
    List.length_pos_iff.2 fun h => hschema (String.toList_eq_nil_iff.1 h)
  have hdot : ".".toList.length = 1 := by decide
  simp only [documentName, String.toList_append, List.length_append, hdot]
  omega

/-- The stem keeps the first piece of the file name from meaning a directory. -/
theorem pieces_documentName {stem : String} (hslash : '/' ∉ stem.toList) (hstem : stem ≠ "")
    (schema : String) (extension : Option String) : ∃ first others,
      Text.pieces '/' (documentName stem schema extension).toList = first :: others ∧
        first ≠ [] ∧ first ≠ ['.'] := by
  -- The first slash can only stand behind the dot that follows the stem.
  have htext : (documentName stem schema extension).toList =
      (stem.toList ++ ['.']) ++ (schema ++ dotted extension).toList := by
    simp only [documentName, String.toList_append, List.append_assoc]
    rfl
  have hbefore : '/' ∉ stem.toList ++ ['.'] := by
    rw [List.mem_append, not_or]
    exact ⟨hslash, by decide⟩
  obtain ⟨first, others, hrest⟩ :=
    List.exists_cons_of_ne_nil (Text.pieces_ne_nil '/' (schema ++ dotted extension).toList)
  obtain ⟨c, cs, hcs⟩ :=
    List.exists_cons_of_ne_nil fun h => hstem (String.toList_eq_nil_iff.1 h)
  refine ⟨_, others, by rw [htext, Text.pieces_append_of_not_mem hbefore hrest], ?_, ?_⟩
  · rw [hcs]
    exact List.cons_ne_nil _ _
  · -- The stem has a character in front of the dot.
    rw [hcs]
    intro h
    have hlength := congrArg List.length h
    simp at hlength

section Beside

variable {filename name : String}

/-- **Where the document of a schema goes,** whatever its name: into the directory of the configured
file, and from there along the file name of the schema, read as a path. -/
theorem components_schemaOutputPath (hname : Path.fileName? filename = some name)
    (schema : String) : Path.components (schemaOutputPath filename schema) =
      Path.components (Path.directory filename) ++ Path.components
        (documentName (Path.stem filename) schema (Path.extension? filename)) := by
  obtain ⟨first, others, hpieces, hempty, hdot⟩ := pieces_documentName
    (Path.not_mem_stem filename) (Path.stem_ne_empty hname) schema (Path.extension? filename)
  rw [schemaOutputPath_eq, Path.withFileName_eq, Path.base_of_fileName? hname,
    Path.components_join _ hpieces hempty hdot]

variable {schema : String}

/-- Without a slash, the file name of a schema is the only component behind the directory. -/
theorem components_schemaOutputPath_of_not_mem (hname : Path.fileName? filename = some name)
    (hschema : schema ≠ "") (hslash : '/' ∉ schema.toList) :
    Path.components (schemaOutputPath filename schema) =
      Path.components (Path.directory filename) ++
        [.name (documentName (Path.stem filename) schema (Path.extension? filename))] := by
  have hlong := length_documentName (Path.stem_ne_empty hname) hschema (Path.extension? filename)
  -- A name of this length is neither a dot nor two dots.
  rw [components_schemaOutputPath hname,
    Path.components_of_not_mem (not_mem_documentName.2 hslash) hlong]

/-- The document has its own file name just in case the name of the schema holds no slash. -/
theorem fileName?_schemaOutputPath_iff (hname : Path.fileName? filename = some name)
    (hschema : schema ≠ "") : Path.fileName? (schemaOutputPath filename schema) =
        some (documentName (Path.stem filename) schema (Path.extension? filename)) ↔
      '/' ∉ schema.toList := by
  constructor
  · -- A file name is one piece of a path, so no slash of the schema can stand in it.
    intro h
    exact not_mem_documentName.1 (Path.not_mem_fileName h)
  · intro hslash
    rw [Path.fileName?_eq_some_iff, components_schemaOutputPath_of_not_mem hname hschema hslash,
      List.getLast?_concat]

/-- Without a slash, the directory of the document is that of the configured file. -/
theorem directory_schemaOutputPath (hname : Path.fileName? filename = some name)
    (hschema : schema ≠ "") (hslash : '/' ∉ schema.toList) :
    Path.directory (schemaOutputPath filename schema) = Path.directory filename := by
  have hlong := length_documentName (Path.stem_ne_empty hname) hschema (Path.extension? filename)
  rw [schemaOutputPath_eq, Path.withFileName_eq, Path.base_of_fileName? hname]
  exact Path.directory_join (Path.names_directory hname).trimmed (not_mem_documentName.2 hslash)
    (toList_ne_of_length hlong [] (by decide)) (toList_ne_of_length hlong ['.'] (by decide))

/-- In any tree, the document then stands in the directory of the configured file. -/
theorem place_schemaOutputPath (hname : Path.fileName? filename = some name)
    (hschema : schema ≠ "") (hslash : '/' ∉ schema.toList) {tree : FileTree}
    {place : List String} (h : tree.LeadsTo (schemaOutputPath filename schema) place) :
    ∃ folder, tree.enterAll (Path.components (Path.directory filename)) = .ok folder ∧
      place = folder ++ [documentName (Path.stem filename) schema (Path.extension? filename)] := by
  -- The last component of the path is the file name, the ones before are those of the directory.
  obtain ⟨folder, text, rfl, hlast, -, hfolder⟩ := h.components
  rw [components_schemaOutputPath_of_not_mem hname hschema hslash] at hlast hfolder
  rw [List.getLast?_concat] at hlast
  rw [List.dropLast_concat] at hfolder
  exact ⟨folder, hfolder, by rw [Path.Component.name.inj (Option.some.inj hlast)]⟩

end Beside

/-- **Documents beside the configured file.** Unless documents are printed, each schema has a path
of its own: into the directory of the configured file and from there along its file name, which is
made from stem, schema and extension and read as a path. It is a single name, and the document lies
in the same directory, just in case the name of the schema holds no slash; in any tree the two paths
then lead into one directory. -/
theorem documents_beside_iff_no_slash {values : SettingValues} {settings : Settings}
    (h : Settings.resolve values = .ok settings) (hseveral : 1 < settings.schemas.length)
    {name : String} (hname : Path.fileName? settings.filename = some name) :
    Path.Names settings.filename (Path.directory settings.filename) name ∧
      (settings.targets = settings.schemas.map fun schema => (schema,
        if Path.components settings.filename = Path.components "-" then .standardOutput
        else .file (schemaOutputPath settings.filename schema))) ∧
      ∃ stem extension, Path.SplitsName name stem extension ∧ ∀ schema ∈ settings.schemas,
        Path.components (schemaOutputPath settings.filename schema) =
          Path.components (Path.directory settings.filename) ++
            Path.components (documentName stem schema extension) ∧
        (Path.directory (schemaOutputPath settings.filename schema) =
              Path.directory settings.filename ∧
            Path.fileName? (schemaOutputPath settings.filename schema) =
              some (documentName stem schema extension) ↔
          '/' ∉ schema.toList) ∧
        ('/' ∉ schema.toList → ∀ (tree : FileTree) (place : List String),
          tree.LeadsTo (schemaOutputPath settings.filename schema) place → ∃ folder,
            tree.enterAll (Path.components (Path.directory settings.filename)) = .ok folder ∧
            place = folder ++ [documentName stem schema extension]) := by
  refine ⟨Path.names_directory hname, Settings.targets_of_several hseveral,
    Path.stem settings.filename, Path.extension? settings.filename,
    Path.splitsName_of_fileName? hname, ?_⟩
  intro schema hlisted
  -- A listed schema has a name that is not blank.
  have hschema : schema ≠ "" := by
    rw [Settings.schemas_of_resolve h] at hlisted
    exact ((schemaList_normal _).names schema hlisted).ne_empty
  refine ⟨components_schemaOutputPath hname schema, ⟨?_, ?_⟩, ?_⟩
  · -- The file name alone tells of the slash, so the directory is not needed here.
    rintro ⟨-, hfile⟩
    exact (fileName?_schemaOutputPath_iff hname hschema).1 hfile
  · intro hslash
    exact ⟨directory_schemaOutputPath hname hschema hslash,
      (fileName?_schemaOutputPath_iff hname hschema).2 hslash⟩
  · intro hslash tree place hleads
    exact place_schemaOutputPath hname hschema hslash hleads

/-- A plain schema, and one whose name reads as a path. -/
def regionalValues : SettingValues :=
  { SettingValues.empty with
    schema := some ["public", "eu/sales"]
    filename := some "out/schema.txt" }

theorem documents_beside_iff_no_slash_regional :
    ∃ settings, Settings.resolve regionalValues = .ok settings ∧ 1 < settings.schemas.length ∧
      Path.fileName? settings.filename = some "schema.txt" ∧
      settings.targets = [("public", .file "out/schema.public.txt"),
        ("eu/sales", .file "out/schema.eu/sales.txt")] ∧
      Path.directory (schemaOutputPath settings.filename "public") =
        Path.directory settings.filename := by
  obtain ⟨settings, hsettings, hseveral, hname, hpublic, htargets⟩ : ∃ settings,
      Settings.resolve regionalValues = .ok settings ∧ 1 < settings.schemas.length ∧
        Path.fileName? settings.filename = some "schema.txt" ∧ "public" ∈ settings.schemas ∧
        settings.targets = [("public", .file "out/schema.public.txt"),
          ("eu/sales", .file "out/schema.eu/sales.txt")] :=
    ⟨_, rfl, by decide, by decide, by decide, by decide⟩
  obtain ⟨-, -, _, _, -, hpaths⟩ := documents_beside_iff_no_slash hsettings hseveral hname
  obtain ⟨-, hbeside, -⟩ := hpaths "public" hpublic
  exact ⟨settings, hsettings, hseveral, hname, htargets, (hbeside.2 (by decide)).1⟩

/-- **Another directory.** The slash in the name of a schema leads its document away from the
configured file, into a directory that is named after the first part of the schema. -/
theorem document_in_other_directory :
    ∃ settings, Settings.resolve regionalValues = .ok settings ∧ 1 < settings.schemas.length ∧
      Path.fileName? settings.filename = some "schema.txt" ∧
      ("eu/sales", .file "out/schema.eu/sales.txt") ∈ settings.targets ∧
      Path.directory "out/schema.eu/sales.txt" = "out/schema.eu" ∧
      Path.directory "out/schema.eu/sales.txt" ≠ Path.directory settings.filename ∧
      Path.fileName? "out/schema.eu/sales.txt" = some "sales.txt" ∧
      (FileTree.ofFiles ["home"] [("out/schema.eu/notes.txt", "")]).LeadsTo
        "out/schema.eu/sales.txt" ["home", "out", "schema.eu", "sales.txt"] :=
  ⟨_, rfl, by decide, by decide, by decide, by decide, by decide, by decide, _, _, rfl, rfl⟩

end SchemaDiagram
