import SchemaDiagram.Path

/-!
# File trees

The files that a program can reach: names with contents, and the directories that the names
imply. Paths are followed from the working directory, component by component, and every
component but the last one must be a directory.

* `FileTree.read`: the content of a file, or why there is none;
* `FileTree.write`: the tree with a file created or overwritten. Directories are not created.
-/

namespace SchemaDiagram

/-- **System error:** why the system refuses access. -/
inductive SystemError where
  | notFound
  | notDirectory
  | isDirectory
  | nameTooLong
  | connectionRefused
  /-- A path with a null character. -/
  | nullInPath
  /-- Any other cause, in the words of the system. -/
  | other (text : String)
  deriving DecidableEq

/-- The text of a system error. -/
def SystemError.message : SystemError → String
  | notFound => "No such file or directory (os error 2)"
  | notDirectory => "Not a directory (os error 20)"
  | isDirectory => "Is a directory (os error 21)"
  | nameTooLong => "File name too long (os error 36)"
  | connectionRefused => "Connection refused (os error 111)"
  | nullInPath => "file name contained an unexpected NUL byte"
  | other text => text

/-- **File tree:** all files, each with the names that lead to it from the root, and the names
that lead to the working directory. -/
structure FileTree where
  home : List String
  files : List (List String × String)

namespace FileTree

/-- The names that lead to a path below the working directory. -/
def placeOf (home : List String) (path : String) : List String :=
  home ++ (Path.components path).filterMap fun
    | .name text => some text
    | _ => none

/-- The tree with the given files below the working directory. -/
def ofFiles (home : List String) (files : List (String × String)) : FileTree :=
  ⟨home, files.map fun (path, content) => (placeOf home path, content)⟩

/-- The content of the file at a place. -/
def file? (tree : FileTree) (place : List String) : Option String := tree.files.lookup place

/-- There is a directory at a place: the working directory or a file lies below it. -/
def hasDirectory (tree : FileTree) (place : List String) : Bool :=
  -- There are no empty directories beside the working directory.
  place.isPrefixOf tree.home ||
    tree.files.any fun (file, _) => place.isPrefixOf file && place.length < file.length

/-- The tree with a file at a place. -/
def put (tree : FileTree) (place : List String) (content : String) : FileTree :=
  -- What the file held before is gone.
  { tree with files := (place, content) :: tree.files.filter (·.1 ≠ place) }

/-! ### Following paths -/

/-- The name is too long for any file or directory. -/
def isTooLong (name : String) : Bool := 255 < name.utf8ByteSize

/-- The directory that a component leads to. -/
def enter (tree : FileTree) (place : List String) :
    Path.Component → Except SystemError (List String)
  | .root => .ok []
  | .current => .ok place
  | .parent => .ok place.dropLast
  | .name text =>
    let inner := place ++ [text]
    if isTooLong text then .error .nameTooLong
    else if tree.hasDirectory inner then .ok inner
    -- A file is no directory, and what is not there is none either.
    else if (tree.file? inner).isSome then .error .notDirectory
    else .error .notFound

/-- The directory that some components lead to. -/
def enterAll (tree : FileTree) (components : List Path.Component) :
    Except SystemError (List String) :=
  components.foldlM tree.enter tree.home

/-- What no path may be. -/
def checkPath (path : String) : Except SystemError Unit :=
  if path.toList.contains '\x00' then .error .nullInPath
  else if path = "" then .error .notFound
  else if 4096 ≤ path.utf8ByteSize then .error .nameTooLong
  else .ok ()

/-- The place of a file: the place of its directory and its name. A path that does not end with
a name leads to no file. -/
def locate (tree : FileTree) (path : String) : Except SystemError (List String × String) := do
  checkPath path
  let components := Path.components path
  match components.getLast?, Path.ending path with
  | some (.name text), .name =>
    -- The directories on the way have to exist, while the file need not.
    let directory ← tree.enterAll components.dropLast
    if isTooLong text then throw .nameTooLong
    return (directory, text)
  | _, _ =>
    let _ ← tree.enterAll components
    throw .isDirectory

/-- **Reading a file.** -/
def read (tree : FileTree) (path : String) : Except SystemError String := do
  let (directory, name) ← tree.locate path
  let place := directory ++ [name]
  match tree.file? place with
  | some content => return content
  | none => throw (if tree.hasDirectory place then .isDirectory else .notFound)

/-- **Writing a file.** A slash at the end of the path asks for a directory, whatever is
there. -/
def write (tree : FileTree) (path content : String) : Except SystemError FileTree := do
  if Path.ending path matches .slash then
    checkPath path
    let _ ← tree.enterAll (Path.components path).dropLast
    throw .isDirectory
  let (directory, name) ← tree.locate path
  let place := directory ++ [name]
  -- A directory is not overwritten.
  if tree.hasDirectory place then throw .isDirectory
  return tree.put place content

/-! ### Comparing trees -/

/-- The path from the working directory to a place, if the place lies below it. -/
def relativePath? (tree : FileTree) (place : List String) : Option String :=
  if tree.home.isPrefixOf place then some ("/".intercalate (place.drop tree.home.length)) else none

/-- **Changes:** the files below the working directory that are new or have another content than
before. -/
def changes (before after : FileTree) : List (String × String) :=
  after.files.filterMap fun (place, content) =>
    if before.file? place = some content then none
    else (after.relativePath? place).map (·, content)

end FileTree

end SchemaDiagram
