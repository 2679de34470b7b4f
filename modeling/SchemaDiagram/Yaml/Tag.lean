import SchemaDiagram.Text.Hexadecimal
import SchemaDiagram.Yaml.Cursor

/-!
# Names, tags and directives

What a YAML text says about its nodes beside their values: anchors and aliases, tags, and the
directives before a document. A tag consists of a handle and a suffix; directives give texts to
handles.

* `scanName`: the name of an anchor or alias;
* `scanTag`: a tag, verbatim or as a shorthand;
* `scanDirective`: a directive with its values.
-/

namespace SchemaDiagram.Yaml

/-! ### Anchors and aliases -/

/-- The character may follow the name of an anchor. -/
def isAfterName (c : Char) : Bool :=
  isBlankOrBreak c || c = '?' || c = ':' || c = ',' || c = ']' || c = '\x7d' || c = '%' ||
    c = '@' || c = '`'

/-- Scans the name of an anchor or alias, given the cursor after its indicator. -/
def scanName (context : Context) (cur : Cursor) : Except Malformation (String × Cursor) :=
  let (name, after) := cur.span isNameChar
  if name.isEmpty || !after.rest.head?.all isAfterName then
    .error (.during .expectedAnchorName context)
  else .ok (String.ofList name, after)

/-! ### Tags -/

/-- The character may stand in a shorthand tag, unescaped. -/
def isTagChar (c : Char) : Bool :=
  isNameChar c || [';', '/', '?', ':', '@', '&', '=', '+', '$', '.', '!', '~', '*', '\'', '(',
    ')'].contains c

/-- The character may stand in a verbatim tag, unescaped. -/
def isUriChar (c : Char) : Bool := isTagChar c || c = ',' || c = '[' || c = ']'

/-- The number of octets of a character with this first octet. -/
def octetCount? (leading : Nat) : Option Nat :=
  if leading < 0x80 then some 1
  else if 0xc0 ≤ leading ∧ leading < 0xe0 then some 2
  else if 0xe0 ≤ leading ∧ leading < 0xf0 then some 3
  else if 0xf0 ≤ leading ∧ leading < 0xf8 then some 4
  else none

/-- The character with these octets. Octets that are no character, or not the shortest way to
write it, give the replacement character. -/
def charOfOctets (octets : List Nat) : Char :=
  let bytes := ByteArray.mk (octets.map UInt8.ofNat).toArray
  (String.fromUTF8? bytes).bind (·.toList.head?) |>.getD '\ufffd'

/-- Reads one escaped octet. -/
def scanOctet (context : Context) (cur : Cursor) : Except Malformation (Nat × Cursor) :=
  match cur.rest with
  | '%' :: a :: b :: _ =>
    match Text.hexNumber? [a, b] with
    | some octet => .ok (octet, cur.skip 3)
    | none => .error (.during .badUriEscape context)
  | _ => .error (.during .badUriEscape context)

/-- Reads `n` more octets of a character. -/
def scanTrailingOctets (context : Context) : Nat → Cursor →
    Except Malformation (List Nat × Cursor)
  | 0, cur => .ok ([], cur)
  | n + 1, cur => do
    let (octet, cur) ← scanOctet context cur
    if 0x80 ≤ octet ∧ octet < 0xc0 then
      let (octets, cur) ← scanTrailingOctets context n cur
      return (octet :: octets, cur)
    else throw (.during .badTrailingOctet context)

/-- Reads a character that is written as escaped octets. -/
def scanUriEscape (context : Context) (cur : Cursor) : Except Malformation (Char × Cursor) := do
  let (leading, cur) ← scanOctet context cur
  match octetCount? leading with
  | none => throw (.during .badLeadingOctet context)
  | some n =>
    let (octets, cur) ← scanTrailingOctets context (n - 1) cur
    return (charOfOctets (leading :: octets), cur)

/-- Scans the characters of a tag, at most `n` of them. -/
def scanTagChars (context : Context) (isPart : Char → Bool) : Nat → Cursor →
    Except Malformation (List Char × Cursor)
  | 0, cur => .ok ([], cur)
  | n + 1, cur =>
    match cur.rest with
    | [] => .ok ([], cur)
    | c :: _ => do
      if c = '%' then
        let (c, cur) ← scanUriEscape context cur
        let (cs, cur) ← scanTagChars context isPart n cur
        return (c :: cs, cur)
      else if isPart c then
        let (cs, cur) ← scanTagChars context isPart n (cur.skip 1)
        return (c :: cs, cur)
      else return ([], cur)

/-- Scans a tag, or the part of it after `start`, all of which must not be empty. An escaped
null ends the value, but not the tag. -/
def scanUri (context : Context) (isPart : Char → Bool) (start : List Char) (cur : Cursor) :
    Except Malformation (String × Cursor) := do
  let (cs, after) ← scanTagChars context isPart cur.rest.length cur
  if start.isEmpty && after.index = cur.index then throw (.during .expectedUri context)
  return (String.ofList ((start.drop 1 ++ cs).takeWhile (· ≠ '\x00')), after)

/-- **Tag** as it is written. -/
structure TagShorthand where
  /-- The handle; empty for a tag that is written in full. -/
  handle : String
  suffix : String
  deriving DecidableEq

/-- Scans a shorthand tag: a handle between two exclamation marks and a suffix, or a suffix after
the first of them alone. -/
def scanShorthand (cur : Cursor) : Except Malformation (TagShorthand × Cursor) := do
  let (name, after) := (cur.skip 1).span isNameChar
  match after.rest with
  | '!' :: _ =>
    let (suffix, after) ← scanUri .tagUri isTagChar [] (after.skip 1)
    return (⟨String.ofList ('!' :: (name ++ ['!'])), suffix⟩, after)
  | _ =>
    let (suffix, after) ← scanUri .tagUri isTagChar ('!' :: name) after
    return (if suffix = "" then ⟨"", "!"⟩ else ⟨"!", suffix⟩, after)

/-- Scans a verbatim tag, given the cursor after its opening bracket. -/
def scanVerbatim (cur : Cursor) : Except Malformation (TagShorthand × Cursor) := do
  let (uri, cur) ← scanUri .tagUri isUriChar [] cur
  match cur.rest with
  | '>' :: _ => return (⟨"", uri⟩, cur.skip 1)
  | _ => throw (.during .expectedUriEnd .tag)

/-- **Scanning a tag,** given the cursor at its exclamation mark. -/
def scanTag (inFlow : Bool) (cur : Cursor) : Except Malformation (TagShorthand × Cursor) := do
  let (tag, cur) ← match cur.rest with
    | '!' :: '<' :: _ => scanVerbatim (cur.skip 2)
    | _ => scanShorthand cur
  if atWordEnd cur.rest || (inFlow && cur.rest.head? = some ',') then return (tag, cur)
  else throw (.during .expectedBlankOrBreak .tag)

/-! ### Directives -/

/-- **Directive.** -/
inductive Directive where
  | version (major minor : Nat)
  /-- The text that stands for a handle. -/
  | tag (handle text : String)

/-- Reads a number of at most nine digits in the version of a text. -/
def scanVersionNumber (cur : Cursor) : Except Malformation (Nat × Cursor) :=
  let (digits, after) := cur.span Char.isDigit
  if 9 < digits.length then .error (.during .longVersion .versionDirective)
  else if digits.isEmpty then .error (.during .expectedVersion .versionDirective)
  else .ok (digits.foldl (fun n c => 10 * n + (c.toNat - '0'.toNat)) 0, after)

/-- Scans the value of a version directive. -/
def scanVersion (cur : Cursor) : Except Malformation (Directive × Cursor) := do
  let (major, cur) ← scanVersionNumber (cur.skipWhile isBlank)
  match cur.rest with
  | '.' :: _ =>
    let (minor, cur) ← scanVersionNumber (cur.skip 1)
    return (.version major minor, cur)
  | _ => throw (.during .expectedVersionDot .versionDirective)

/-- Scans the handle of a tag directive: one exclamation mark, or a name between two. -/
def scanHandle (cur : Cursor) : Except Malformation (String × Cursor) :=
  match cur.rest with
  | '!' :: _ =>
    let (name, after) := (cur.skip 1).span isNameChar
    match after.rest with
    | '!' :: _ => .ok (String.ofList ('!' :: (name ++ ['!'])), after.skip 1)
    | _ => if name.isEmpty then .ok ("!", after) else .error (.during .expectedHandle .handleEnd)
  | _ => .error (.during .expectedHandle .handleStart)

/-- Scans the values of a tag directive. -/
def scanTagDirective (cur : Cursor) : Except Malformation (Directive × Cursor) := do
  let (handle, cur) ← scanHandle (cur.skipWhile isBlank)
  unless cur.rest.head?.any isBlank do throw (.during .expectedBlank .tagDirective)
  let (text, cur) ← scanUri .directiveUri isUriChar [] (cur.skipWhile isBlank)
  unless atWordEnd cur.rest do throw (.during .expectedBlankOrBreak .tagDirective)
  return (.tag handle text, cur)

/-- **Scanning a directive** with its line, given the cursor at its percent sign. -/
def scanDirective (cur : Cursor) : Except Malformation (Directive × Cursor) := do
  let (name, cur) := (cur.skip 1).span isNameChar
  if name.isEmpty then throw (.during .expectedDirectiveName .directive)
  unless atWordEnd cur.rest do throw (.during .badDirectiveName .directive)
  let (directive, cur) ←
    if name = ['Y', 'A', 'M', 'L'] then scanVersion cur
    else if name = ['T', 'A', 'G'] then scanTagDirective cur
    else throw (.during .unknownDirective .directive)
  return (directive, ← cur.endLine .directive)

end SchemaDiagram.Yaml
