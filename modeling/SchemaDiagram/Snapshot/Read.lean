import SchemaDiagram.Json.Scan
import SchemaDiagram.Snapshot.Format

/-!
# Reading snapshot texts

`Format.read` reads a JSON text by its format in one pass from left to right and stops at the
first problem. The members of a record may come in any order; members that the record does not
have are skipped, a member that occurs twice is refused, and at the end of the object those
that are still missing are looked at in the order of their declaration. A record may also be
written as the array of its members, of which the last ones may be missing if they may be
absent.
-/

namespace SchemaDiagram.Snapshot

open Json

/-- **Reader:** from a text to what it begins with and the text after it. -/
abbrev Reader (α : Type) := StateT (List Char) (Except Json.Error) α

/-! ### Values of another kind -/

/-- What a text begins with, as far as it has to be read to say so; the text holds more than
white space and none comes first. -/
def finding (cs : List Char) : Except Json.Error Finding :=
  match cs with
  | 'n' :: cs => do
    let _ ← scanWord ['u', 'l', 'l'] cs
    return .nothing
  | 't' :: cs => do
    let _ ← scanWord ['r', 'u', 'e'] cs
    return .bool true
  | 'f' :: cs => do
    let _ ← scanWord ['a', 'l', 's', 'e'] cs
    return .bool false
  | '"' :: cs => do
    let (text, _) ← scanString [] cs
    return .text text
  | '[' :: _ => return .sequence
  | '\x7b' :: _ => return .map
  | '-' :: cs => numeric (scanNumber true cs)
  | c :: cs =>
    if c.isDigit then numeric (scanNumber false (c :: cs)) else .error (.malformed .expectedValue)
  | [] => .error (.ended .value)
where
  numeric (scanned : Except Json.Error (Number × List Char)) : Except Json.Error Finding := do
    match (← scanned).1 with
    | .integer n => return .integer n
    | .float x => return .float x

/-- Refuses a text that begins with something other than expected. -/
def refuse {α : Type} (expected : String) (cs : List Char) : Except Json.Error α := do
  throw (.mismatch (.wrongType (← finding cs) expected))

/-! ### Leaves -/

/-- Reads a string. -/
def readText : Reader String := fun cs =>
  match skipSpace cs with
  | '"' :: cs => scanString [] cs
  | cs => refuse "a string" cs

/-- Reads a truth value. -/
def readFlag : Reader Bool := fun cs =>
  match skipSpace cs with
  | 't' :: cs => do return (true, ← scanWord ['r', 'u', 'e'] cs)
  | 'f' :: cs => do return (false, ← scanWord ['a', 'l', 's', 'e'] cs)
  | cs => refuse "a boolean" cs

/-- The word that a number stands for, if it is whole and in range. -/
def wordOf : Number → Except Json.Error UInt32
  | .integer n =>
    if 0 ≤ n ∧ n.natAbs < Nat.pow 2 32 then .ok (UInt32.ofNat n.toNat)
    else .error (.mismatch (.wrongValue (.integer n) "u32"))
  -- A number with a point is refused even if it is whole.
  | .float x => .error (.mismatch (.wrongType (.float x) "u32"))

/-- Reads a whole number below `2 ^ 32`. -/
def readWord : Reader UInt32 := fun cs =>
  match skipSpace cs with
  | '-' :: cs => number (scanNumber true cs)
  | c :: cs => if c.isDigit then number (scanNumber false (c :: cs)) else refuse "u32" (c :: cs)
  | [] => refuse "u32" []
where
  number (scanned : Except Json.Error (Number × List Char)) :
      Except Json.Error (UInt32 × List Char) := do
    let (n, cs) ← scanned
    return (← wordOf n, cs)

/-- Reads the tag of a relation kind. -/
def readKind : Reader RelationKind := do
  let tag ← readText
  match RelationKind.ofTag? tag with
  | some kind => return kind
  | none => throw (.mismatch (.unknownRelationKind tag))

/-- The cases of an index entry, by name. -/
def entryCases : List (String × (String → IndexEntry)) :=
  [("column", .column), ("expression", .expression)]

/-- The case of this name. -/
def entryCase (name : String) : Except Json.Error (String → IndexEntry) :=
  match entryCases.lookup name with
  | some make => .ok make
  | none => .error (.mismatch (.unknownCase name (entryCases.map (·.1))))

/-- Reads a colon after the name of a member. -/
def readColon : Reader Unit := fun cs =>
  match skipSpace cs with
  | ':' :: cs => .ok ((), cs)
  | [] => .error (.ended .object)
  | _ => .error (.malformed .expectedColon)

/-- Reads the name of a case, which is a string. -/
def readCaseName : Reader String := fun cs =>
  match skipSpace cs with
  | '"' :: cs => scanString [] cs
  | cs => refuse "variant identifier" cs

/-- Reads the brace that ends an index entry. -/
def closeEntry : Reader Unit := fun cs =>
  match skipSpace cs with
  | '\x7d' :: cs => .ok ((), cs)
  | [] => .error (.ended .object)
  | _ => .error (.malformed .expectedValue)

/-- Reads an index entry. A bare string names a case without its text and is refused. -/
def readEntry : Reader IndexEntry := fun cs =>
  match skipSpace cs with
  | '\x7b' :: cs => member cs
  | '"' :: cs => do
    -- The string is read to its end, and its case looked up, before the shape is refused.
    let (name, _) ← scanString [] cs
    let _ ← entryCase name
    throw (.mismatch (.wrongType .bareCase "newtype variant"))
  | [] => .error (.ended .value)
  | _ => .error (.malformed .expectedValue)
where
  member : Reader IndexEntry := do
    let name ← readCaseName
    let make ← entryCase name
    readColon
    let text ← readText
    closeEntry
    return make text

/-- Reads `null` or a value. -/
def readOptional {α : Type} (inner : Reader α) : Reader (Option α) := fun cs =>
  match skipSpace cs with
  | 'n' :: cs => do return (none, ← scanWord ['u', 'l', 'l'] cs)
  | cs => (some <$> inner).run cs

/-! ### Arrays -/

/-- Whether another entry of an array follows; a comma before it is read. -/
def hasEntry (first : Bool) : Reader Bool := fun cs =>
  match skipSpace cs with
  | [] => .error (.ended .list)
  -- The bracket is left for the reader of the end.
  | ']' :: cs => .ok (false, ']' :: cs)
  | c :: cs =>
    if first then .ok (true, c :: cs)
    else if c = ',' then
      match skipSpace cs with
      | ']' :: _ => .error (.malformed .trailingComma)
      | [] => .error (.ended .value)
      | cs => .ok (true, cs)
    else .error (.malformed .expectedCommaOrBracket)

/-- Reads the end of an array all of whose entries have been read. -/
def closeList : Reader Unit := fun cs =>
  match skipSpace cs with
  | ']' :: cs => .ok ((), cs)
  | ',' :: cs =>
    match skipSpace cs with
    | ']' :: _ => .error (.malformed .trailingComma)
    | _ => .error (.malformed .trailingCharacters)
  | [] => .error (.ended .list)
  | _ => .error (.malformed .trailingCharacters)

/-- Reads the entries of an array up to its end; every entry takes up a character. -/
def readEntries {α : Type} (inner : Reader α) : Nat → Bool → Reader (List α)
  | 0, _ => throw (.ended .list)
  | fuel + 1, first => do
    if ← hasEntry first then
      let entry ← inner
      let entries ← readEntries inner fuel false
      return entry :: entries
    else return []

/-- Reads an array. -/
def readList {α : Type} (inner : Reader α) : Reader (List α) := fun cs =>
  match skipSpace cs with
  | '[' :: cs => (do
      let entries ← readEntries inner (cs.length + 1) true
      closeList
      return entries : Reader (List α)).run cs
  | cs => refuse "a sequence" cs

/-! ### Records -/

/-- **Draft** of a record: the values of the members that have been read. -/
def Members.Draft : Members → Type
  | .nil => Unit
  | .cons _ format rest => Option format.Val × rest.Draft

/-- The draft of a record of which nothing has been read. -/
def Members.emptyDraft : (members : Members) → members.Draft
  | .nil => ()
  | .cons _ _ rest => (none, rest.emptyDraft)

/-- The record of a draft: members that are missing have their defaults where they may be
absent, the first other one is an error. -/
def Members.finish : (members : Members) → members.Draft → Except Json.Error members.Val
  | .nil, () => .ok ()
  | .cons member format rest, (value?, draft) => do
    let value ← match value? with
      | some value => .ok value
      -- A default alone is not enough: the member has to be one that may be absent.
      | none =>
        match if member.mayBeAbsent then format.default? else none with
        | some value => .ok value
        | none => .error (.mismatch (.missingField member.name))
    return (value, ← rest.finish draft)

/-- Whether another member of an object follows; a comma before it is read. -/
def hasMember (first : Bool) : Reader Bool := fun cs =>
  match skipSpace cs with
  | [] => .error (.ended .object)
  | '\x7d' :: cs => .ok (false, '\x7d' :: cs)
  | c :: cs =>
    if first then
      if c = '"' then .ok (true, c :: cs) else .error (.malformed .keyIsNoString)
    else if c = ',' then
      match skipSpace cs with
      | '"' :: cs => .ok (true, '"' :: cs)
      | '\x7d' :: _ => .error (.malformed .trailingComma)
      | [] => .error (.ended .value)
      | _ => .error (.malformed .keyIsNoString)
    -- The comma between two members is missing.
    else .error (.malformed .expectedCommaOrBrace)

/-- Reads the end of an object all of whose members have been read. -/
def closeObject : Reader Unit := fun cs =>
  match skipSpace cs with
  | '\x7d' :: cs => .ok ((), cs)
  | ',' :: _ => .error (.malformed .trailingComma)
  | [] => .error (.ended .object)
  | _ => .error (.malformed .trailingCharacters)

/-- Skips a value. -/
def readIgnored : Reader Unit := fun cs => do return ((), ← skipValue cs)

/-- Reads the members of an object up to its end into a draft. `known` reads the member of a
given name, if the record has one; others are skipped. -/
def readMembers {δ : Type} (known : String → δ → Option (Reader δ)) :
    Nat → Bool → δ → Reader δ
  | 0, _, _ => throw (.ended .object)
  | fuel + 1, first, draft => do
    if ← hasMember first then
      let name ← readText
      match known name draft with
      | some read =>
        let draft ← read
        readMembers known fuel false draft
      | none =>
        -- The value of a foreign name is passed over, whatever it is.
        readColon
        readIgnored
        readMembers known fuel false draft
    else return draft

/-- The record and the number of its members, in words. -/
def Label.withSize (label : Label) (size : Nat) : String :=
  "struct " ++ label.name ++ " with " ++ toString size ++
    (if size = 1 then " element" else " elements")

mutual
/-- **Reading a value** of a format. -/
def Format.read : (format : Format) → Reader format.Val
  | .text => readText
  | .flag => readFlag
  | .word => readWord
  | .kind => readKind
  | .entry => readEntry
  | .optional inner => readOptional inner.read
  | .list inner => readList inner.read
  | .record label members => fun cs =>
    match skipSpace cs with
    | '[' :: cs => (do
        let value ← members.readInOrder (label.withSize members.length) 0
        closeList
        return value : Reader members.Val).run cs
    | '\x7b' :: cs => (do
        let draft ← readMembers members.readMember (cs.length + 1) true members.emptyDraft
        -- A missing member is noticed before anything is said about the end of the object.
        let value ← members.finish draft
        closeObject
        return value : Reader members.Val).run cs
    | cs => refuse ("struct " ++ label.name) cs

/-- Reads the members of a record from an array, where `index` entries have been read. -/
def Members.readInOrder (expected : String) (index : Nat) :
    (members : Members) → Reader members.Val
  | .nil => return ()
  | .cons member format rest => do
    let value ←
      if ← hasEntry (index = 0) then format.read
      -- A short array has the defaults of the members that are missing at its end.
      else match if member.mayBeAbsent then format.default? else none with
        | some value => pure value
        | none => throw (.mismatch (.wrongLength index expected))
    return (value, ← rest.readInOrder expected (index + 1))

/-- Reads the member of this name into a draft, if there is one. -/
def Members.readMember : (members : Members) → String → members.Draft →
    Option (Reader members.Draft)
  | .nil, _, _ => none
  | .cons member format rest, name, (value?, draft) =>
    if name = member.name then some do
      -- A repeated name is refused before its value is looked at.
      if value?.isSome then throw (.mismatch (.duplicateField name))
      readColon
      let value ← format.read
      return (some value, draft)
    else (rest.readMember name draft).map fun read => do return (value?, ← read)
end

/-- **Reading a whole text:** nothing but white space may follow the value. -/
def Format.parse (format : Format) (text : String) : Except Json.Error format.Val := do
  let (value, rest) ← format.read.run text.toList
  if (skipSpace rest).isEmpty then return value else throw (.malformed .trailingCharacters)

end SchemaDiagram.Snapshot
