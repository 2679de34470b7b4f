import SchemaDiagram.Json.Error
import SchemaDiagram.Text.Hexadecimal

/-!
# Scanning JSON

The parts of a JSON text below the level of its structure. Every function takes the text that
is still to be read and gives back what it read together with the text after it, or the first
problem.

* `scanString`: a string, with its escapes resolved;
* `scanNumber`: a number, where whole numbers of up to 64 bits are kept exactly and all others
  become doubles;
* `skipValue`: any value, of which nothing is kept. Numbers are not evaluated and halves of
  surrogate pairs not matched in a value that is skipped.
-/

namespace SchemaDiagram.Json

/-- The character is white space between the parts of a JSON text. -/
def isSpace (c : Char) : Bool := c = ' ' || c = '\n' || c = '\t' || c = '\r'

/-- The text after any white space. -/
def skipSpace (cs : List Char) : List Char := cs.dropWhile isSpace

/-- Reads the given characters, the rest of a word. -/
def scanWord : List Char → List Char → Except Error (List Char)
  | [], cs => .ok cs
  | _ :: _, [] => .error (.ended .value)
  | w :: ws, c :: cs => if c = w then scanWord ws cs else .error (.malformed .expectedWord)

/-! ### Strings -/

/-- The number of bytes of a text. -/
def byteCount (cs : List Char) : Nat := (String.ofList cs).utf8ByteSize

/-- Reads the four digits of an escape by code point. The text ends too early if not even four
bytes are left. -/
def scanHex4 : List Char → Except Error (Nat × List Char)
  | a :: b :: c :: d :: cs =>
    match Text.hexNumber? [a, b, c, d] with
    | some n => .ok (n, cs)
    | none => .error (.malformed .invalidEscape)
  -- Fewer than four characters may be four bytes, and are no digits then.
  | cs => .error (if byteCount cs < 4 then .ended .string else .malformed .invalidEscape)

/-- The number is the first half of a surrogate pair. -/
def isLeading (n : Nat) : Bool := 0xd800 ≤ n && n ≤ 0xdbff

/-- The number is the second half of a surrogate pair. -/
def isTrailing (n : Nat) : Bool := 0xdc00 ≤ n && n ≤ 0xdfff

/-- Reads the second half of a surrogate pair with its escape, given the first half. -/
def scanTrailing (leading : Nat) : List Char → Except Error (Char × List Char)
  | '\\' :: 'u' :: cs => do
    let (trailing, cs) ← scanHex4 cs
    if isTrailing trailing then
      -- The two halves hold ten bits each, the first one above the second one.
      return (Char.ofNat (0x10000 + 0x400 * (leading - 0xd800) + (trailing - 0xdc00)), cs)
    else throw (.malformed .loneSurrogate)
  -- The text ends where the second escape might stand.
  | [] | ['\\'] => .error (.ended .string)
  | _ => .error (.malformed .unfinishedPair)

/-- Reads an escape by code point, given the text after its letter; a character beyond
`U+FFFF` takes two escapes. -/
def scanCodePoint (cs : List Char) : Except Error (Char × List Char) := do
  let (n, cs) ← scanHex4 cs
  if isTrailing n then throw (.malformed .loneSurrogate)
  else if isLeading n then scanTrailing n cs
  else return (Char.ofNat n, cs)

/-- The character of an escape by letter. -/
def letterEscape? : Char → Option Char
  | '"' => some '"'
  | '\\' => some '\\'
  | '/' => some '/'
  | 'b' => some '\x08'
  | 'f' => some '\x0c'
  | 'n' => some '\n'
  | 'r' => some '\r'
  | 't' => some '\t'
  | _ => none

/-- Reads an escape, given the text after its backslash. -/
def scanEscape : List Char → Except Error (Char × List Char)
  | [] => .error (.ended .string)
  | 'u' :: cs => scanCodePoint cs
  | c :: cs =>
    match letterEscape? c with
    | some e => .ok (e, cs)
    | none => .error (.malformed .invalidEscape)

theorem scanHex4_length {cs rest : List Char} {n : Nat} (h : scanHex4 cs = .ok (n, rest)) :
    rest.length < cs.length := by
  unfold scanHex4 at h
  split at h
  · split at h
    · simp only [Except.ok.injEq, Prod.mk.injEq] at h
      obtain ⟨-, rfl⟩ := h
      simp only [List.length_cons]
      omega
    · simp at h
  · simp at h

theorem scanTrailing_length {leading : Nat} {cs rest : List Char} {c : Char}
    (h : scanTrailing leading cs = .ok (c, rest)) : rest.length < cs.length := by
  unfold scanTrailing at h
  split at h
  · rename_i tail
    cases h4 : scanHex4 tail with
    | error e => simp [h4, bind, Except.bind] at h
    | ok r =>
      obtain ⟨n, after⟩ := r
      have := scanHex4_length h4
      simp only [h4, bind, Except.bind] at h
      split at h
      · simp only [pure, Except.pure, Except.ok.injEq, Prod.mk.injEq] at h
        obtain ⟨-, rfl⟩ := h
        simp only [List.length_cons]
        omega
      · simp [throw, throwThe, MonadExceptOf.throw] at h
  all_goals simp at h

theorem scanCodePoint_length {cs rest : List Char} {c : Char}
    (h : scanCodePoint cs = .ok (c, rest)) : rest.length < cs.length := by
  unfold scanCodePoint at h
  cases h4 : scanHex4 cs with
  | error e => simp [h4, bind, Except.bind] at h
  | ok r =>
    obtain ⟨n, after⟩ := r
    have hl := scanHex4_length h4
    simp only [h4, bind, Except.bind] at h
    split at h
    · simp [throw, throwThe, MonadExceptOf.throw] at h
    · split at h
      · exact Nat.lt_trans (scanTrailing_length h) hl
      · simp only [pure, Except.pure, Except.ok.injEq, Prod.mk.injEq] at h
        obtain ⟨-, rfl⟩ := h
        exact hl

/-- An escape takes up part of the text. -/
theorem scanEscape_length {cs rest : List Char} {c : Char} (h : scanEscape cs = .ok (c, rest)) :
    rest.length < cs.length := by
  unfold scanEscape at h
  split at h
  · simp at h
  · have := scanCodePoint_length h
    simp only [List.length_cons]
    omega
  · split at h
    · simp only [Except.ok.injEq, Prod.mk.injEq] at h
      obtain ⟨-, rfl⟩ := h
      simp
    · simp at h

/-- **Scanning a string,** given the text after its opening quote; `read` holds the characters
read so far, the last one first. -/
def scanString (read : List Char) : List Char → Except Error (String × List Char)
  | [] => .error (.ended .string)
  | '"' :: cs => .ok (String.ofList read.reverse, cs)
  | '\\' :: cs =>
    match h : scanEscape cs with
    | .error e => .error e
    | .ok (c, rest) =>
      have := scanEscape_length h
      scanString (c :: read) rest
  | c :: cs =>
    -- Control characters have to be escaped.
    if c.toNat < 0x20 then .error (.malformed .controlCharacter) else scanString (c :: read) cs
termination_by cs => cs.length

/-! ### Numbers -/

/-- **Number** as it is read. -/
inductive Number where
  /-- A whole number from `-2 ^ 63` to `2 ^ 64 - 1` that is written without a point, an
  exponent or a negative zero. -/
  | integer (value : Int)
  | float (value : Float)

/-- The greatest significand that is kept exactly. -/
def maxSignificand : Nat := Nat.pow 2 64 - 1

/-- The value of a decimal digit. -/
def digitValue (c : Char) : Nat := c.toNat - '0'.toNat

/-- Takes digits into a significand as long as it does not become too great; gives back the
significand and the digits that are left. -/
def takeDigits (significand : Nat) : List Char → Nat × List Char
  | [] => (significand, [])
  | c :: cs =>
    let next := 10 * significand + digitValue c
    if next ≤ maxSignificand then takeDigits next cs else (significand, c :: cs)

/-- A double times a power of ten, computed by at most one operation for powers within range,
and by repeated division where the number is too small; a result that is too great is refused. -/
def scaleFloat (x : Float) (exponent : Int) : Except Error Float :=
  -- Powers of ten up to this size are finite doubles.
  if -308 ≤ exponent ∧ exponent ≤ 308 then
    let power := Float.ofScientific 1 false exponent.natAbs
    if 0 ≤ exponent then
      if (x * power).isInf then .error (.malformed .numberOutOfRange) else .ok (x * power)
    else .ok (x / power)
  -- A zero stays a zero under any exponent.
  else if x == 0 then .ok x
  else if 0 ≤ exponent then .error (.malformed .numberOutOfRange)
  -- The number is divided as far as one power goes, and again.
  else scaleFloat (x / Float.ofScientific 1 false 308) (exponent + 308)
termination_by (-exponent).toNat

/-- The double of a sign, a significand and an exponent. -/
def floatOf (negative : Bool) (significand : Nat) (exponent : Int) : Except Error Number := do
  let x ← scaleFloat (UInt64.ofNat significand).toFloat exponent
  return .float (if negative then -x else x)

/-- Reads an exponent and its sign, given the text after its letter. -/
def scanExponent (cs : List Char) : Except Error (Int × List Char) :=
  let (negative, cs) := match cs with
    | '+' :: cs => (false, cs)
    | '-' :: cs => (true, cs)
    | cs => (false, cs)
  match cs with
  | [] => .error (.ended .value)
  | c :: _ =>
    if c.isDigit then
      let value := (cs.takeWhile Char.isDigit).foldl (fun n c => 10 * n + digitValue c) 0
      .ok (if negative then -value else value, cs.dropWhile Char.isDigit)
    else .error (.malformed .invalidNumber)

/-- Reads what may follow the digits of a number, an exponent or nothing. -/
def scanScaled (negative : Bool) (significand : Nat) (exponent : Int) (cs : List Char) :
    Except Error (Number × List Char) :=
  match cs with
  | 'e' :: cs | 'E' :: cs => do
    let (more, cs) ← scanExponent cs
    return (← floatOf negative significand (exponent + more), cs)
  | cs => do return (← floatOf negative significand exponent, cs)

/-- Reads a fraction, given the text after its point: at least one digit, of which those count
that the significand can take. -/
def scanFraction (negative : Bool) (significand : Nat) (exponent : Int) (cs : List Char) :
    Except Error (Number × List Char) :=
  let digits := cs.takeWhile Char.isDigit
  let after := cs.dropWhile Char.isDigit
  if digits.isEmpty then
    .error (if after.isEmpty then .ended .value else .malformed .invalidNumber)
  else
    let (significand, left) := takeDigits significand digits
    -- Each digit that counts moves the point by one place.
    scanScaled negative significand (exponent - (digits.length - left.length)) after

/-- The number of a sign and a significand that fits, without fraction and exponent. -/
def wholeNumber (negative : Bool) (significand : Nat) : Number :=
  if !negative then .integer significand
  -- A negative zero is a float, and so is a number below the least word.
  else if 0 < significand ∧ significand ≤ Nat.pow 2 63 then .integer (-significand)
  else .float (-(UInt64.ofNat significand).toFloat)

/-- Reads what follows the first digit of a number, given all its leading digits. -/
def scanDigits (negative : Bool) (digits cs : List Char) : Except Error (Number × List Char) :=
  let (significand, left) := takeDigits 0 digits
  -- Digits that the significand cannot take count for the exponent only.
  match cs with
  | '.' :: cs => scanFraction negative significand left.length cs
  | 'e' :: _ | 'E' :: _ => scanScaled negative significand left.length cs
  | cs =>
    if left.isEmpty then .ok (wholeNumber negative significand, cs)
    else scanScaled negative significand left.length cs

/-- **Scanning a number,** given the text after its sign. -/
def scanNumber (negative : Bool) : List Char → Except Error (Number × List Char)
  | [] => .error (.ended .value)
  | '0' :: cs =>
    match cs with
    | c :: _ =>
      -- A zero stands alone before the point.
      if c.isDigit then .error (.malformed .invalidNumber) else scanDigits negative ['0'] cs
    | [] => scanDigits negative ['0'] []
  | c :: cs =>
    if c.isDigit then
      scanDigits negative (c :: cs.takeWhile Char.isDigit) (cs.dropWhile Char.isDigit)
    else .error (.malformed .invalidNumber)

/-! ### Skipping -/

/-- Skips a string, given the text after its opening quote. -/
def skipString : List Char → Except Error (List Char)
  | [] => .error (.ended .string)
  | '"' :: cs => .ok cs
  | '\\' :: 'u' :: cs =>
    match h : scanHex4 cs with
    | .error e => .error e
    | .ok (_, rest) =>
      have := scanHex4_length h
      skipString rest
  | ['\\'] => .error (.ended .string)
  | '\\' :: c :: cs =>
    if (letterEscape? c).isSome then skipString cs else .error (.malformed .invalidEscape)
  | c :: cs => if c.toNat < 0x20 then .error (.malformed .controlCharacter) else skipString cs
termination_by cs => cs.length

/-- Skips at least one digit. -/
def skipDigits : List Char → Except Error (List Char)
  | [] => .error (.malformed .invalidNumber)
  | c :: cs =>
    if c.isDigit then .ok (cs.dropWhile Char.isDigit) else .error (.malformed .invalidNumber)

/-- Skips an exponent, if there is one. -/
def skipExponent : List Char → Except Error (List Char)
  | 'e' :: cs | 'E' :: cs =>
    match cs with
    | '+' :: cs | '-' :: cs => skipDigits cs
    | cs => skipDigits cs
  | cs => .ok cs

/-- Skips a fraction and an exponent, if they are there. -/
def skipFraction : List Char → Except Error (List Char)
  | '.' :: cs => do skipExponent (← skipDigits cs)
  | cs => skipExponent cs

/-- Skips a number, given the text after its sign. -/
def skipNumber : List Char → Except Error (List Char)
  | '0' :: c :: cs =>
    if c.isDigit then .error (.malformed .invalidNumber) else skipFraction (c :: cs)
  | cs => do skipFraction (← skipDigits cs)

/-- An array or object whose end has not been reached. -/
inductive Bracket where
  | list
  | object
  deriving DecidableEq

/-- The text ended inside this bracket. -/
def Bracket.ended : Bracket → Error
  | list => .ended .list
  | object => .ended .object

/-- The character that closes a bracket. -/
def Bracket.closing : Bracket → Char
  | list => ']'
  | object => '\x7d'

/-- Something other than a comma or the closing character follows a value in this bracket. -/
def Bracket.expectedComma : Bracket → Error
  | list => .malformed .expectedCommaOrBracket
  | object => .malformed .expectedCommaOrBrace

/-- Where the skipping of a value stands. -/
inductive SkipState where
  /-- A value follows. -/
  | before
  /-- A bracket has just been opened. -/
  | opened
  /-- A value has just ended. -/
  | after

/-- Skips the name of a member and its colon, if the bracket is an object. -/
def skipName (bracket : Bracket) (cs : List Char) : Except Error (List Char) :=
  match bracket with
  | .list => .ok cs
  | .object => do
    match skipSpace cs with
    | [] => throw bracket.ended
    | '"' :: cs =>
      match skipSpace (← skipString cs) with
      | ':' :: cs => return cs
      | [] => throw bracket.ended
      | _ => throw (.malformed .expectedColon)
    | _ => throw (.malformed .keyIsNoString)

/-- Skips values from this state on until all brackets are closed. -/
def skipFrom : Nat → List Bracket → SkipState → List Char → Except Error (List Char)
  -- The fuel does not run out, since it is chosen by the length of the text.
  | 0, _, _, _ => .error (.ended .value)
  | fuel + 1, brackets, .before, cs =>
    match skipSpace cs with
    | [] => .error (.ended .value)
    | 'n' :: cs => do skipFrom fuel brackets .after (← scanWord ['u', 'l', 'l'] cs)
    | 't' :: cs => do skipFrom fuel brackets .after (← scanWord ['r', 'u', 'e'] cs)
    | 'f' :: cs => do skipFrom fuel brackets .after (← scanWord ['a', 'l', 's', 'e'] cs)
    | '-' :: cs => do skipFrom fuel brackets .after (← skipNumber cs)
    | '"' :: cs => do skipFrom fuel brackets .after (← skipString cs)
    | '[' :: cs => skipFrom fuel (.list :: brackets) .opened cs
    | '\x7b' :: cs => skipFrom fuel (.object :: brackets) .opened cs
    | c :: cs =>
      if c.isDigit then do skipFrom fuel brackets .after (← skipNumber (c :: cs))
      else .error (.malformed .expectedValue)
  | fuel + 1, bracket :: brackets, .opened, cs =>
    match skipSpace cs with
    | [] => .error bracket.ended
    | c :: cs =>
      if c = bracket.closing then skipFrom fuel brackets .after cs
      else do skipFrom fuel (bracket :: brackets) .before (← skipName bracket (c :: cs))
  | fuel + 1, bracket :: brackets, .after, cs =>
    match skipSpace cs with
    | [] => .error bracket.ended
    | c :: cs =>
      if c = ',' then do skipFrom fuel (bracket :: brackets) .before (← skipName bracket cs)
      else if c = bracket.closing then skipFrom fuel brackets .after cs
      else .error bracket.expectedComma
  -- All brackets are closed.
  | _ + 1, [], _, cs => .ok cs

/-- **Skipping a value.** Every second step at least takes up a character. -/
def skipValue (cs : List Char) : Except Error (List Char) :=
  skipFrom (2 * cs.length + 2) [] .before cs

end SchemaDiagram.Json
