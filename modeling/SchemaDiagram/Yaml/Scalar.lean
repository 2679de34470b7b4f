import SchemaDiagram.Text.Hexadecimal
import SchemaDiagram.Yaml.Cursor

/-!
# Scalars of a YAML text

The three ways to write a text: plain, between quotes, and as an indented block. Each function
takes the cursor before the first character of the value and gives back the value with the
cursor after it.

* `scanPlain`: a plain scalar, which ends before an indicator;
* `scanQuoted`: a scalar in single or double quotes, with its escapes resolved;
* `scanBlock`: a literal or folded block.

In plain and quoted scalars the white space between two words may contain line breaks; a `Gap`
says what it contributes to the value.
-/

namespace SchemaDiagram.Yaml

/-- How a scalar is written. -/
inductive ScalarStyle where
  | plain
  | quoted
  | literal
  | folded
  deriving DecidableEq

/-! ### Gaps -/

/-- **Gap** between two words. -/
inductive Gap where
  /-- Blanks on one line. -/
  | blanks (text : List Char)
  /-- The first line break, or nothing for an escaped one, and the further line breaks. -/
  | breaks (first more : List Char)

namespace Gap

/-- No gap. -/
def none : Gap := .blanks []

/-- There is no gap. -/
def isNone : Gap → Bool
  | blanks [] => true
  | _ => false

/-- The gap contains a line break. -/
def isBroken : Gap → Bool
  | blanks _ => false
  | breaks _ _ => true

/-- A gap with one more character of white space. Blanks next to a line break do not count. -/
def add (gap : Gap) (c : Char) : Gap :=
  match gap with
  -- With the first line break the blanks before it are forgotten.
  | blanks text => if isBreak c then breaks [c] [] else blanks (text ++ [c])
  | breaks first more => if isBreak c then breaks first (more ++ [c]) else breaks first more

/-- **Folding.** What a gap contributes to a value: one line feed alone becomes a space, several
lose the first of them. -/
def text : Gap → List Char
  | blanks text => text
  -- The pattern is a single line feed; other line breaks are kept.
  | breaks ['\n'] [] => [' ']
  | breaks ['\n'] more => more
  | breaks first more => first ++ more

end Gap

/-! ### Plain scalars -/

/-- **Surroundings** of a scalar. -/
structure Surroundings where
  /-- Whether it stands between brackets. -/
  inFlow : Bool
  /-- The least column that is inside the block around it. -/
  margin : Nat

/-- A plain scalar between brackets ends before this character. -/
def isFlowEnd (c : Char) : Bool := c = ',' || c = '[' || c = ']' || c = '\x7b' || c = '\x7d'

/-- No plain scalar between brackets has this character after a colon. -/
def isAfterColon (c : Char) : Bool := isFlowEnd c || c = '?'

/-- A plain scalar ends before this character, given the text after it. -/
def endsPlain (inFlow : Bool) (c : Char) (after : List Char) : Bool :=
  (c = ':' && atWordEnd after) || (inFlow && isFlowEnd c)

/-- A plain scalar ends after a gap, before this character. -/
def endsPlainLine (around : Surroundings) (cur : Cursor) (c : Char) : Bool :=
  (!around.inFlow && cur.column < around.margin) || cur.atDocumentMarker || c = '#'

/-- **Scanning a plain scalar.** `read` holds the characters read so far, the last one first,
and `gap` the white space after them. The result says whether there is a line break between the
scalar and the cursor. -/
def scanPlain (around : Surroundings) (read : List Char) (gap : Gap) (cur : Cursor) :
    Except Malformation (String × Bool × Cursor) :=
  let done := .ok (String.ofList read.reverse, gap.isBroken, cur)
  match h : cur.next? with
  | none => done
  | some (c, next) =>
    have := Cursor.next?_length h
    if isBlankOrBreak c then
      -- A tab at the start of a line would have to count as indentation.
      if gap.isBroken && cur.column < around.margin && c = '\t' then
        .error (.during .tabBelowIndentation .plainScalar)
      else scanPlain around read (gap.add c) next
    -- Indentation, markers and comments are looked at only where a new word begins.
    else if !gap.isNone && endsPlainLine around cur c then done
    else if around.inFlow && c = ':' && next.rest.head?.any isAfterColon then
      .error (.during .misplacedColon .plainScalar)
    else if endsPlain around.inFlow c next.rest then done
    -- The gap becomes part of the value once another word follows.
    else scanPlain around (c :: (gap.text.reverse ++ read)) .none next
termination_by cur.rest.length

/-! ### Quoted scalars -/

/-- The quotes around a scalar. -/
inductive Quotes where
  | single
  | double
  deriving DecidableEq

/-- The character of the quotes. -/
def Quotes.mark : Quotes → Char
  | single => '\''
  | double => '"'

/-- The character of an escape by letter. -/
def escapedChar? : Char → Option Char
  | '0' => some '\x00'
  | 'a' => some '\x07'
  | 'b' => some '\x08'
  | 't' | '\t' => some '\t'
  | 'n' => some '\n'
  | 'v' => some '\x0b'
  | 'f' => some '\x0c'
  | 'r' => some '\r'
  | 'e' => some '\x1b'
  | ' ' => some ' '
  | '"' => some '"'
  | '/' => some '/'
  | '\\' => some '\\'
  | 'N' => some '\u0085'
  | '_' => some '\u00a0'
  | 'L' => some '\u2028'
  | 'P' => some '\u2029'
  | _ => none

/-- The number of hexadecimal digits of an escape by code point. -/
def escapeLength? : Char → Option Nat
  | 'x' => some 2
  | 'u' => some 4
  | 'U' => some 8
  | _ => none

/-- The character of an escape by code point with `n` digits. -/
def codePoint (n : Nat) (digits : List Char) : Except Malformation Char :=
  -- Too few digits are treated like a character that is no digit.
  match if digits.length < n then none else Text.hexNumber? (digits.take n) with
  | none => .error (.during .expectedHexDigit .escape)
  | some value =>
    if value.isValidChar then .ok (Char.ofNat value) else .error (.during .badCodePoint .escape)

/-- Reads an escape, given the cursor after its backslash; not for an escaped line break. -/
def scanEscape (cur : Cursor) : Except Malformation (Char × Cursor) :=
  match cur.rest with
  | [] => .error (.during .unknownEscape .escape)
  | c :: digits =>
    match escapedChar? c, escapeLength? c with
    | some escaped, _ => .ok (escaped, cur.skip 1)
    | none, some n => do return (← codePoint n digits, cur.skip (n + 1))
    | none, none => .error (.during .unknownEscape .escape)

theorem scanEscape_length {cur next : Cursor} {c : Char} (h : scanEscape cur = .ok (c, next)) :
    next.rest.length < cur.rest.length := by
  unfold scanEscape at h
  split at h
  · simp at h
  · rename_i hr
    split at h
    · simp only [Except.ok.injEq, Prod.mk.injEq] at h
      obtain ⟨-, rfl⟩ := h
      simp [Cursor.skip, hr]
    · rename_i n _ _
      cases hp : codePoint n ‹List Char› with
      | error e => simp [hp, bind, Except.bind] at h
      | ok v =>
        simp only [hp, bind, Except.bind, pure, Except.pure, Except.ok.injEq, Prod.mk.injEq] at h
        obtain ⟨-, rfl⟩ := h
        simp only [Cursor.skip, hr, List.drop_succ_cons, List.length_drop, List.length_cons]
        omega
    · simp at h

/-- **Scanning a quoted scalar,** given the cursor after its opening quote. `read` holds the
characters read so far, the last one first, and `gap` the white space after them. -/
def scanQuoted (quotes : Quotes) (read : List Char) (gap : Gap) (cur : Cursor) :
    Except Malformation (String × Cursor) :=
  if cur.atDocumentMarker then .error (.during .markerInScalar .quotedScalar)
  else match h : cur.next? with
  | none => .error (.during .endInScalar .quotedScalar)
  | some (c, next) =>
    have := Cursor.next?_length h
    let joined := gap.text.reverse ++ read
    if isBlankOrBreak c then scanQuoted quotes read (gap.add c) next
    else if c = quotes.mark then
      -- Two single quotes stand for one of them.
      if quotes = .single ∧ next.rest.head? = some quotes.mark then
        have : (next.skip 1).rest.length ≤ next.rest.length := by simp [Cursor.skip]
        scanQuoted quotes (c :: joined) .none (next.skip 1)
      else .ok (String.ofList joined.reverse, next)
    else if quotes = .double ∧ c = '\\' then
      if next.rest.head?.any isBreak then
        match hb : next.next? with
        | none => .error (.during .endInScalar .quotedScalar)
        | some (_, after) =>
          have := Cursor.next?_length hb
          -- An escaped line break joins its two lines without a space.
          scanQuoted quotes joined (.breaks [] []) after
      else
        match he : scanEscape next with
        | .error e => .error e
        | .ok (escaped, after) =>
          have := scanEscape_length he
          scanQuoted quotes (escaped :: joined) .none after
    else scanQuoted quotes (c :: joined) .none next
termination_by cur.rest.length

/-! ### Block scalars -/

/-- What becomes of the line breaks at the end of a block. -/
inductive Chomping where
  /-- None is kept. -/
  | strip
  /-- The first one is kept. -/
  | clip
  /-- All are kept. -/
  | keep
  deriving DecidableEq

/-- **Head** of a block scalar. -/
structure BlockHead where
  chomping : Chomping
  /-- The indentation of the block beyond that of the text around it. -/
  indentation : Option Nat

/-- Reads the sign that says what becomes of the line breaks at the end. -/
def scanChomping (cur : Cursor) : Chomping × Cursor :=
  match cur.rest with
  | '+' :: _ => (.keep, cur.skip 1)
  | '-' :: _ => (.strip, cur.skip 1)
  | _ => (.clip, cur)

/-- Reads the digit that fixes the indentation of a block. -/
def scanIndentation (cur : Cursor) : Except Malformation (Option Nat × Cursor) :=
  match cur.rest with
  | c :: _ =>
    if c = '0' then .error (.during .zeroIndentation .blockScalar)
    else if c.isDigit then .ok (some (c.toNat - '0'.toNat), cur.skip 1)
    else .ok (none, cur)
  | [] => .ok (none, cur)

/-- Reads the head of a block scalar, given the cursor after its indicator; sign and digit stand
in any order. -/
def scanBlockHead (cur : Cursor) : Except Malformation (BlockHead × Cursor) := do
  let (sign, afterSign) := scanChomping cur
  let (indentation, afterDigit) ← scanIndentation afterSign
  -- Where no sign came first, one may follow the digit.
  let (chomping, after) := if sign = .clip then scanChomping afterDigit else (sign, afterDigit)
  return (⟨chomping, indentation⟩, ← after.endLine .blockScalar)

/-- **Scanning the empty lines** before a line of a block: their line breaks, the greatest
column reached in the indentation, and the cursor after the indentation of the line. Where the
indentation of the block is not known yet, all spaces belong to it. -/
def scanEmptyLines (indent : Option Nat) (deepest : Nat) (breaks : List Char) (cur : Cursor) :
    Except Malformation (List Char × Nat × Cursor) :=
  let inIndentation := indent.all (cur.column < ·)
  let deepest := max deepest cur.column
  match h : cur.next? with
  | none => .ok (breaks, deepest, cur)
  | some (c, next) =>
    have := Cursor.next?_length h
    if isBreak c then scanEmptyLines indent deepest (breaks ++ [c]) next
    else if c = ' ' ∧ inIndentation then scanEmptyLines indent deepest breaks next
    else if c = '\t' ∧ inIndentation then .error (.during .tabForIndentation .blockScalar)
    else .ok (breaks, deepest, cur)
termination_by cur.rest.length

theorem scanEmptyLines_length {indent : Option Nat} {deepest : Nat} {breaks : List Char}
    {cur next : Cursor} {result : List Char} {reached : Nat}
    (h : scanEmptyLines indent deepest breaks cur = .ok (result, reached, next)) :
    next.rest.length ≤ cur.rest.length := by
  fun_induction scanEmptyLines indent deepest breaks cur with
  | case1 | case5 =>
    simp only [Except.ok.injEq, Prod.mk.injEq] at h
    simp [h.2.2]
  | case2 | case3 => rename_i ih; have := ih h; omega
  | case4 => simp at h

/-- The value of a block up to a line. -/
structure BlockText where
  /-- The lines before, the last character first. -/
  read : List Char
  /-- The break at the end of the last line. -/
  ending : List Char
  /-- The breaks of the empty lines after it. -/
  empty : List Char
  /-- Whether the last line starts with a blank. -/
  startsBlank : Bool

/-- **Folding.** The value with its last line break joined to the next line: in a folded block
a line feed between two lines that start with no blank becomes a space, or nothing if empty
lines follow it. -/
def BlockText.joined (text : BlockText) (style : ScalarStyle) (nextStartsBlank : Bool) :
    List Char :=
  let folds := style = .folded && text.ending = ['\n'] && !text.startsBlank && !nextStartsBlank
  let ending := if folds then (if text.empty.isEmpty then [' '] else []) else text.ending
  text.empty.reverse ++ (ending.reverse ++ text.read)

/-- The value of a block that ends here. -/
def BlockText.finish (text : BlockText) (chomping : Chomping) : String :=
  let tail := match chomping with
    | .strip => []
    | .clip => text.ending
    | .keep => text.ending ++ text.empty
  String.ofList (text.read.reverse ++ tail)

/-- **Scanning the lines of a block** with the given indentation. -/
def scanBlockLines (style : ScalarStyle) (indent : Nat) (text : BlockText) (cur : Cursor) :
    Except Malformation (BlockText × Cursor) :=
  match hc : cur.next? with
  | none => .ok (text, cur)
  | some (c, next) =>
    -- A line with less indentation ends the block.
    if cur.column ≠ indent then .ok (text, cur)
    else
      have := Cursor.next?_length hc
      let line := next.span (!isBreak ·)
      have : line.2.rest.length ≤ next.rest.length := Cursor.span_length next _
      let read := line.1.reverse ++ (c :: text.joined style (isBlank c))
      match hb : line.2.next? with
      | none => .ok (⟨read, [], [], isBlank c⟩, line.2)
      | some (ending, start) =>
        have := Cursor.next?_length hb
        match he : scanEmptyLines (some indent) 0 [] start with
        | .error e => .error e
        | .ok (empty, _, after) =>
          have := scanEmptyLines_length he
          scanBlockLines style indent ⟨read, [ending], empty, isBlank c⟩ after
termination_by cur.rest.length

/-- **Scanning a block scalar,** given the cursor after its indicator. Without a digit in its
head the deepest of its first lines fixes the indentation, which is at least one. -/
def scanBlock (around : Surroundings) (style : ScalarStyle) (cur : Cursor) :
    Except Malformation (String × Cursor) := do
  let (head, cur) ← scanBlockHead cur
  -- The digit counts from the indentation of the block around it.
  let fixed := head.indentation.map (around.margin - 1 + ·)
  let (empty, deepest, cur) ← scanEmptyLines fixed 0 [] cur
  let indent := fixed.getD (max deepest (max around.margin 1))
  let (text, cur) ← scanBlockLines style indent ⟨[], [], empty, false⟩ cur
  return (text.finish head.chomping, cur)

end SchemaDiagram.Yaml
