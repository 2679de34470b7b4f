import SchemaDiagram.Text.Blank

/-!
# File paths

Paths as texts with slashes. A path is read as a list of components: repeated slashes, slashes
at the end and `.` after the first place do not count. The file name of a path is its last
component if that is an ordinary name; a name is taken apart at its last dot into stem and
extension, unless the dot is its first character.

* `components`: the components of a path; two paths with the same components are equal;
* `stem`, `extension?`: the two parts of the file name;
* `ending`: whether the path ends with a name at all;
* `withFileName`: the path with another file name in its place.
-/

namespace SchemaDiagram.Path

/-- **Component** of a path. -/
inductive Component where
  /-- The slash with which an absolute path starts. -/
  | root
  /-- The directory itself, as the first component of a relative path. -/
  | current
  /-- The directory above. -/
  | parent
  | name (text : String)
  deriving DecidableEq

/-- The component of a piece between slashes that is not the first one: the empty piece and
`.` give none. -/
def inner? (piece : List Char) : Option Component :=
  if piece = [] ∨ piece = ['.'] then none
  else if piece = ['.', '.'] then some .parent
  else some (.name (String.ofList piece))

/-- The components of the pieces of a path between slashes. -/
def ofPieces : List (List Char) → List Component
  | [] => []
  | ['.'] :: rest => .current :: rest.filterMap inner?
  | [] :: piece :: rest => .root :: (piece :: rest).filterMap inner?
  | pieces => pieces.filterMap inner?

/-- **Components** of a path. -/
def components (path : String) : List Component := ofPieces (Text.pieces '/' path.toList)

/-- The file name: the last component if it is an ordinary name. -/
def fileName? (path : String) : Option String :=
  match (components path).getLast? with
  | some (.name text) => some text
  | _ => none

/-- The characters before and after the last dot, if there is a dot. -/
def splitLastDot (cs : List Char) : Option (List Char × List Char) :=
  let after := (cs.reverse.takeWhile (· ≠ '.')).reverse
  match cs.reverse.dropWhile (· ≠ '.') with
  | [] => none
  | _ :: before => some (before.reverse, after)

/-- Stem and extension of a file name. -/
def splitName (name : String) : String × Option String :=
  match splitLastDot name.toList with
  | none => (name, none)
  | some ([], _) => (name, none)
  | some (stem, extension) => (String.ofList stem, some (String.ofList extension))

/-- The stem of the file name; a path without a file name has the empty stem. -/
def stem (path : String) : String :=
  match fileName? path with
  | some name => (splitName name).1
  | none => ""

/-- The extension of the file name. -/
def extension? (path : String) : Option String :=
  (fileName? path).bind fun name => (splitName name).2

/-- How a path ends. -/
inductive Ending where
  | name
  /-- With a slash. -/
  | slash
  /-- With one of the names that lead to a directory. -/
  | dots
  deriving DecidableEq

/-- The end of a path. -/
def ending (path : String) : Ending :=
  match (Text.pieces '/' path.toList).getLast? with
  | none | some [] => .slash
  | some ['.'] | some ['.', '.'] => .dots
  | some _ => .name

/-! ### Replacing the file name -/

/-- Removes from the end of a reversed path what does not count there: slashes and pieces that
are `.`, except a slash or a `.` with which the path starts. -/
def trimReversed : List Char → List Char
  | '/' :: c :: cs => trimReversed (c :: cs)
  | '.' :: '/' :: cs => trimReversed ('/' :: cs)
  | cs => cs

/-- The directory of a path with a file name: the text before the last component, without the
slashes between them. -/
def directory (path : String) : String :=
  let name := (trimReversed path.toList.reverse).dropWhile (· ≠ '/')
  String.ofList (trimReversed name).reverse

/-- A path to an entry of a directory: the two texts with a slash between them, unless the
directory is the empty text or ends with a slash. -/
def join (directory name : String) : String :=
  match directory.toList.getLast? with
  | none | some '/' => directory ++ name
  | some _ => directory ++ "/" ++ name

/-- **Replacing the file name.** A path without a file name gets one behind it. -/
def withFileName (path name : String) : String :=
  match fileName? path with
  | some _ => join (directory path) name
  | none => join path name

end SchemaDiagram.Path
