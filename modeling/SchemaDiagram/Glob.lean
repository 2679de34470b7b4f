/-!
# Glob patterns

Patterns over names, in which `?` stands for any character, `*` for any characters, a bracket
such as `[a-z_]` or `[!0-9]` for one character inside or outside a class, and `**`, where it
fills a whole part between slashes, for any run of such parts. Every other character stands
for itself. Upper and lower case differ, and neither slashes nor leading dots are special to
`?`, `*` and brackets.

* `Pattern.compile`: the tokens of a pattern, or what is wrong with it and where;
* `Pattern.matches`: whether a name fits the pattern from end to end.
-/

namespace SchemaDiagram.Glob

/-! ### Tokens -/

/-- A part of a character class: all characters from one to another one. -/
structure CharRange where
  first : Char
  last : Char
  deriving DecidableEq

/-- The character lies in the range. -/
def CharRange.contains (r : CharRange) (c : Char) : Bool :=
  decide (r.first ≤ c) && decide (c ≤ r.last)

/-- **Token** of a pattern. -/
inductive Token where
  /-- The character itself. -/
  | literal (c : Char)
  /-- Any character. -/
  | anyChar
  /-- Any characters, be it none. -/
  | anySequence
  /-- Any parts between slashes, with the slash after them. -/
  | anyParts
  /-- A character of the class. -/
  | within (ranges : List CharRange)
  /-- A character outside the class. -/
  | except (ranges : List CharRange)
  deriving DecidableEq

/-- **Pattern:** a sequence of tokens. -/
structure Pattern where
  tokens : List Token
  deriving DecidableEq

/-! ### Errors -/

/-- What may be wrong with a pattern. -/
inductive ErrorKind where
  /-- More than two stars in a row. -/
  | tooManyStars
  /-- Two stars that share their part with other characters. -/
  | starsInsidePart
  /-- A bracket that opens no class. -/
  | badClass
  deriving DecidableEq

/-- **Pattern error** and the number of characters before the place where it was noticed. -/
structure Error where
  position : Nat
  kind : ErrorKind
  deriving DecidableEq

/-- What is wrong, in words. -/
def ErrorKind.message : ErrorKind → String
  | tooManyStars => "wildcards are either regular `*` or recursive `**`"
  | starsInsidePart => "recursive wildcards must form a single path component"
  | badClass => "invalid range pattern"

/-- The text of a pattern error. -/
def Error.message (e : Error) : String :=
  "Pattern syntax error near position " ++ toString e.position ++ ": " ++ e.kind.message

/-! ### Compilation -/

/-- The ranges of a class: `a-z` is a range, any other character a range of its own. -/
def ranges : List Char → List CharRange
  -- A dash at the start or the end of a class is a character like any other.
  | a :: '-' :: b :: rest => ⟨a, b⟩ :: ranges rest
  | a :: rest => ⟨a, a⟩ :: ranges rest
  | [] => []

/-- The characters of a class and the text after the bracket that closes it, given the text
after the one that opens it; the first character of a class never closes it. -/
def classBody : List Char → Option (List Char × List Char)
  | [] => none
  | first :: rest =>
    -- Without a closing bracket there is no class.
    match rest.dropWhile (· ≠ ']') with
    | [] => none
    | _ :: after => some (first :: rest.takeWhile (· ≠ ']'), after)

/-- The class at the start of a text, given the text after the opening bracket, and the rest
of the text. -/
def readClass : List Char → Option (Token × List Char)
  -- The mark of a complement stands in front of the class and is none of its characters.
  | '!' :: rest => (classBody rest).map fun (body, after) => (.except (ranges body), after)
  | rest => (classBody rest).map fun (body, after) => (.within (ranges body), after)

theorem classBody_length {cs body after : List Char} (h : classBody cs = some (body, after)) :
    after.length < cs.length := by
  cases cs with
  | nil => simp [classBody] at h
  | cons first rest =>
    have hle := (List.dropWhile_sublist (l := rest) (· ≠ ']')).length_le
    simp only [classBody] at h
    split at h
    · simp at h
    · rename_i hd
      simp only [Option.some.injEq, Prod.mk.injEq] at h
      obtain ⟨-, rfl⟩ := h
      rw [hd] at hle
      simp only [List.length_cons] at hle ⊢
      omega

/-- A class takes up part of the text. -/
theorem readClass_length {cs after : List Char} {token : Token}
    (h : readClass cs = some (token, after)) : after.length < cs.length := by
  unfold readClass at h
  split at h <;> simp only [Option.map_eq_some_iff, Prod.mk.injEq] at h <;>
    obtain ⟨⟨body, tail⟩, hb, -, rfl⟩ := h <;>
    have := classBody_length hb <;> simp only [List.length_cons] <;> omega

/-- Adds a recursive wildcard to the tokens so far, the last token first. A second one in a row
adds nothing, unless the first one is the very first token. -/
def addParts : List Token → List Token
  -- The wildcard before it already takes any number of parts.
  | .anyParts :: t :: ts => .anyParts :: t :: ts
  | ts => .anyParts :: ts

/-- The tokens of a text that stands after `position` characters, the last of which is
`before`; `tokens` are those before it, the last one first. -/
def compileFrom (position : Nat) (before : Option Char) (tokens : List Token) :
    List Char → Except Error (List Token)
  | [] => .ok tokens.reverse
  | '?' :: rest => compileFrom (position + 1) (some '?') (.anyChar :: tokens) rest
  | '*' :: '*' :: '*' :: _ => .error ⟨position + 2, .tooManyStars⟩
  | '*' :: '*' :: rest =>
    -- The part starts at the start of the pattern or behind a slash, and ends likewise.
    if before.all (· = '/') then
      match rest with
      | [] => .ok (addParts tokens).reverse
      | '/' :: rest => compileFrom (position + 3) (some '/') (addParts tokens) rest
      | _ => .error ⟨position + 2, .starsInsidePart⟩
    else .error ⟨position - 1, .starsInsidePart⟩
  | '*' :: rest => compileFrom (position + 1) (some '*') (.anySequence :: tokens) rest
  | '[' :: rest =>
    match h : readClass rest with
    | none => .error ⟨position, .badClass⟩
    | some (token, after) =>
      have := readClass_length h
      compileFrom (position + 1 + (rest.length - after.length)) (some ']') (token :: tokens)
        after
  | c :: rest => compileFrom (position + 1) (some c) (.literal c :: tokens) rest
termination_by cs => cs.length

/-- **Compilation** of a pattern. -/
def Pattern.compile (pattern : String) : Except Error Pattern := do
  return ⟨← compileFrom 0 none [] pattern.toList⟩

/-! ### Matching

A pattern is matched from its last token to its first one. For each token there is a row of
truth values, one for each end of the name from the whole name down to the empty one: whether
the pattern from this token on fits that end of the name. -/

/-- The row before all tokens are added: only the empty end fits the empty pattern. -/
def emptyRow : List Char → List Bool
  | [] => [true]
  | _ :: cs => false :: emptyRow cs

/-- The row of a token for one character, given the row of the tokens after it. -/
def singleRow (accepts : Char → Bool) : List Char → List Bool → List Bool
  | c :: cs, _ :: row => (accepts c && row.headD false) :: singleRow accepts cs row
  | _, _ => [false]

/-- The row of a token for any characters: true where the row after it is true there or for a
shorter end. -/
def sequenceRow : List Bool → List Bool
  | [] => []
  | fits :: row =>
    let later := sequenceRow row
    (fits || later.headD false) :: later

/-- For each end of the name, whether the row is true for a shorter end that follows a slash
or for the empty end. -/
def afterPartsRow : List Char → List Bool → List Bool
  | c :: cs, _ :: row =>
    let later := afterPartsRow cs row
    ((c = '/' && row.headD false) || later.headD false) :: later
  | _, row => row

/-- The row of a token, given the row of the tokens after it. -/
def Token.row (name : List Char) (after : List Bool) : Token → List Bool
  | literal c => singleRow (· = c) name after
  | anyChar => singleRow (fun _ => true) name after
  | within ranges => singleRow (fun c => ranges.any (·.contains c)) name after
  | except ranges => singleRow (fun c => !ranges.any (·.contains c)) name after
  | anySequence => sequenceRow after
  -- No part at all, or some parts with the slash behind them.
  | anyParts => List.zipWith (· || ·) after (afterPartsRow name after)

/-- **Matching.** The whole name fits the whole pattern. -/
def Pattern.matches (pattern : Pattern) (name : String) : Bool :=
  let name := name.toList
  (pattern.tokens.foldr (fun token after => token.row name after) (emptyRow name)).headD false

end SchemaDiagram.Glob
