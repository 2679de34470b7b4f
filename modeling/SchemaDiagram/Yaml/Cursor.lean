import SchemaDiagram.Yaml.Malformation

/-!
# Cursors in a YAML text

A `Cursor` is a place in a text: the characters from there on, together with the position by
which indentation is judged. `Cursor.next?` reads one character; it reads every line break as
one character, however it is written, and moves to the start of the next line.

* `isBreak`, `isBlank`: the characters that end a line and those that separate words;
* `Cursor.span`: the characters of one line up to one that fails a test.
-/

namespace SchemaDiagram.Yaml

/-! ### Characters -/

/-- **Line break.** The character ends a line. -/
def isBreak (c : Char) : Bool :=
  c = '\n' || c = '\r' || c = '\u0085' || c = '\u2028' || c = '\u2029'

/-- The character is a space or a tab. -/
def isBlank (c : Char) : Bool := c = ' ' || c = '\t'

/-- The character separates words. -/
def isBlankOrBreak (c : Char) : Bool := isBlank c || isBreak c

/-- The character may stand in the name of an anchor or of a tag handle. -/
def isNameChar (c : Char) : Bool := c.isAlphanum || c = '_' || c = '-'

/-- A line break as it stands in a value: the separators of lines and of paragraphs are kept,
all others become line feeds. -/
def normalBreak (c : Char) : Char := if c = '\u2028' || c = '\u2029' then c else '\n'

/-- A word ends here: no character follows, or one that separates words. -/
def atWordEnd : List Char → Bool
  | [] => true
  | c :: _ => isBlankOrBreak c

/-- The character may stand in a YAML text. -/
def isAllowed (c : Char) : Bool :=
  let n := c.toNat
  n == 0x09 || n == 0x0a || n == 0x0d || (0x20 ≤ n && n ≤ 0x7e) || n == 0x85 ||
    (0xa0 ≤ n && n ≤ 0xd7ff) || (0xe000 ≤ n && n ≤ 0xfffd) || 0x10000 ≤ n

/-! ### Cursors -/

/-- **Cursor:** the text that follows, and the position in characters, counted over the whole
text, and in lines and columns. -/
structure Cursor where
  rest : List Char
  index : Nat
  line : Nat
  column : Nat

namespace Cursor

/-- The cursor at the start of a text. -/
def start (text : List Char) : Cursor := ⟨text, 0, 0, 0⟩

/-- **Reading one character.** A line break of two characters is read as one. -/
def next? (cur : Cursor) : Option (Char × Cursor) :=
  match cur.rest with
  | [] => none
  | '\r' :: '\n' :: cs => some ('\n', ⟨cs, cur.index + 2, cur.line + 1, 0⟩)
  | c :: cs =>
    if isBreak c then some (normalBreak c, ⟨cs, cur.index + 1, cur.line + 1, 0⟩)
    else some (c, ⟨cs, cur.index + 1, cur.line, cur.column + 1⟩)

/-- Reading a character takes up part of the text. -/
theorem next?_length {cur next : Cursor} {c : Char} (h : cur.next? = some (c, next)) :
    next.rest.length < cur.rest.length := by
  unfold next? at h
  split at h
  · simp at h
  · rename_i hr
    simp only [Option.some.injEq, Prod.mk.injEq] at h
    obtain ⟨-, rfl⟩ := h
    simp only [hr, List.length_cons]
    omega
  · rename_i hr
    split at h
    all_goals
      simp only [Option.some.injEq, Prod.mk.injEq] at h
      obtain ⟨-, rfl⟩ := h
      simp [hr]

/-- The cursor after `n` characters, none of which is a line break. -/
def skip (cur : Cursor) (n : Nat) : Cursor :=
  ⟨cur.rest.drop n, cur.index + n, cur.line, cur.column + n⟩

/-- The characters up to the first one that fails a test, and the cursor before that one; no
line break may pass the test. -/
def span (cur : Cursor) (p : Char → Bool) : List Char × Cursor :=
  let taken := cur.rest.takeWhile p
  (taken, cur.skip taken.length)

/-- The cursor before the first character that fails a test. -/
def skipWhile (cur : Cursor) (p : Char → Bool) : Cursor := (cur.span p).2

/-- The cursor at the end of a comment that starts here, if one does. -/
def skipComment (cur : Cursor) : Cursor :=
  match cur.rest with
  | '#' :: _ => cur.skipWhile (!isBreak ·)
  | _ => cur

theorem span_length (cur : Cursor) (p : Char → Bool) :
    (cur.span p).2.rest.length ≤ cur.rest.length := by
  simp [span, skip]

/-- The cursor after a line break, if one follows. -/
def skipBreak (cur : Cursor) : Cursor :=
  match cur.next? with
  | some (c, next) => if isBreak c then next else cur
  | none => cur

/-- A line of its own starts here with the given character three times, the marker of the
start or of the end of a document. -/
def atMarker (cur : Cursor) (mark : Char) : Bool :=
  cur.column = 0 && match cur.rest with
    | a :: b :: c :: cs => a = mark && b = mark && c = mark && atWordEnd cs
    | _ => false

/-- A marker of the start or of the end of a document stands here. -/
def atDocumentMarker (cur : Cursor) : Bool := cur.atMarker '-' || cur.atMarker '.'

/-- The end of a line of a directive or of the head of a block scalar: blanks and a comment may
stand before it. -/
def endLine (cur : Cursor) (context : Context) : Except Malformation Cursor :=
  let cur := (cur.skipWhile isBlank).skipComment
  match cur.rest with
  | [] => .ok cur
  | c :: _ => if isBreak c then .ok cur.skipBreak else .error (.during .expectedLineEnd context)

end Cursor

end SchemaDiagram.Yaml
