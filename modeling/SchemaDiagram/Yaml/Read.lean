import SchemaDiagram.Yaml.Meaning

/-!
# Reading YAML

Readers of the values of a document. A reader takes the entries from a value on and gives back
what it read together with the entries after the value; an alias is read as the node that it
stands for.

* `readText`, `readFlag`, `readWord`: scalars;
* `readTexts`: a list of texts;
* `readOptional`: a value that may be null.
-/

namespace SchemaDiagram.Yaml

/-- **Error** of reading a document. -/
inductive ReadError where
  | failed (failure : Failure)
  /-- A value of another form than its reader needs; the path to the value is empty for the
  whole document. -/
  | mismatch (path : String) (found : Mismatch)

/-- The text of an error. -/
def ReadError.message : ReadError → String
  | failed failure => failure.message
  | mismatch path found => (if path = "" then "" else path ++ ": ") ++ found.message wording

/-- **Reader** of a value. -/
abbrev Reader (α : Type) := List Entry → Except ReadError (α × List Entry)

/-- The error at a value that is not of the expected form. -/
def refusal (path expected : String) (entries : List Entry) : ReadError :=
  match entries with
  | .broken failure :: _ => .failed failure
  | .scalar s :: _ => .mismatch path (s.mismatch expected)
  | .sequenceStart :: _ => .mismatch path (.wrongType .sequence expected)
  | .mappingStart :: _ => .mismatch path (.wrongType .map expected)
  | _ => .mismatch path (.wrongType .nothing expected)

/-- A value is left out: an empty plain scalar, or no node at all. -/
def isLeftOut : Entry → Bool
  | .nothing => true
  | .scalar s => s.style = .plain && s.text = ""
  | _ => false

/-- Reads the node that an alias stands for in its place. -/
def throughAlias {α : Type} (document : Document) (read : Reader α) : Reader α
  | .reference number :: rest => do return ((← read (document.target number)).1, rest)
  | entries => read entries

/-! ### Scalars -/

/-- Reads a text: any scalar is one. -/
def readText (path expected : String) : Reader String
  | .scalar s :: rest => .ok (s.text, rest)
  | entries => .error (refusal path expected entries)

/-- Reads a truth value. -/
def readFlag (path : String) : Reader Bool := fun entries =>
  let refused := .error (refusal path "a boolean" entries)
  match entries with
  | .scalar s :: rest =>
    match if s.hasForm "bool" then bool? s.text else none with
    | some value => .ok (value, rest)
    | none => refused
  | _ => refused

/-- Reads a number from 0 to 65535. -/
def readWord (path : String) : Reader UInt16 := fun entries =>
  let refused := .error (refusal path "u16" entries)
  match entries with
  | .scalar s :: rest =>
    match if s.hasForm "int" then (natural? s.text).filter (· < Nat.pow 2 64) else none with
    | some n =>
      if n < Nat.pow 2 16 then .ok (UInt16.ofNat n, rest)
      else .error (.mismatch path (.wrongValue (.integer n) "u16"))
    | none => refused
  | _ => refused

/-! ### Lists -/

/-- Reads texts up to the end of their sequence, where `index` of them have been read. -/
def readEntries (document : Document) (path : String) (index : Nat) : Reader (List String)
  | [] => .error (refusal path "a string" [])
  | .sequenceEnd :: rest => .ok ([], rest)
  | entry :: rest => do
    let place := path ++ "[" ++ toString index ++ "]"
    let (text, _) ← throughAlias document (readText place "a string") (entry :: rest)
    let (texts, after) ← readEntries document path (index + 1) rest
    return (text :: texts, after)

/-- Reads a list of texts; a value that is left out is the empty list. -/
def readTexts (document : Document) (path : String) : Reader (List String)
  | .sequenceStart :: rest => readEntries document path 0 rest
  | entry :: rest =>
    if isLeftOut entry then .ok ([], rest)
    else .error (refusal path "a sequence" (entry :: rest))
  | [] => .error (refusal path "a sequence" [])

/-! ### Null -/

/-- Whether a scalar stands for no value. A tag other than that of null makes it a value, and the
tag of null demands one of the words for it. -/
def isUnset (s : Scalar) : Except ReadError Bool :=
  if s.style ≠ .plain then .ok false
  else match s.tag with
    | none => .ok (s.text = "" || isNullWord s.text)
    | some tag =>
      if tag ≠ coreTag "null" then .ok false
      else if isNullWord s.text then .ok true
      else .error (.mismatch "" (.wrongValue (.text s.text) "null"))

/-- Reads a value that may be null. -/
def readOptional {α : Type} (document : Document) (read : Reader α) : Reader (Option α) :=
  throughAlias document fun entries => do
    match entries with
    | .scalar s :: rest => if ← isUnset s then return (none, rest)
    | .nothing :: rest => return (none, rest)
    | _ => pure ()
    let (value, rest) ← read entries
    return (some value, rest)

/-! ### Whole texts -/

/-- **Reading a text** as one value: nothing but the end may follow it. -/
def readDocument {α : Type} (read : Document → Reader α) (text : String) :
    Except ReadError α := do
  let document := Document.ofText text.toList
  let (value, rest) ← read document document.entries
  match rest with
  | .broken failure :: _ => throw (.failed failure)
  | _ => if document.isLast then return value else throw (.failed .severalDocuments)

end SchemaDiagram.Yaml
