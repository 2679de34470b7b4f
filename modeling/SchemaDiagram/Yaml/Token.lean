import SchemaDiagram.Yaml.Scalar
import SchemaDiagram.Yaml.Tag

/-!
# Tokens of a YAML text

The text as a list of tokens. Indentation gives tokens of its own: the start and the end of a
block sequence or mapping. A key is recognised only by the colon after it, so that the scanner
keeps for every open bracket the place where a key may have begun, and puts the tokens in front
of it in there when the colon comes.

* `Scanner`: the state of scanning;
* `Scanner.fetch`: one step, which adds the tokens for the next piece of the text;
* `tokens`: all tokens, up to the end or the first malformation. The tokens from a place where a
  key may have begun do not count before it is clear whether one did.
-/

namespace SchemaDiagram.Yaml

/-- **Token.** -/
inductive Token where
  | textEnd
  | directive (directive : Directive)
  | documentStart
  | documentEnd
  | blockSequenceStart
  | blockMappingStart
  | blockEnd
  | flowSequenceStart
  | flowSequenceEnd
  | flowMappingStart
  | flowMappingEnd
  /-- The dash before an entry of a block sequence. -/
  | blockEntry
  /-- The comma between entries. -/
  | flowEntry
  | key
  | value
  | reference (name : String)
  | anchor (name : String)
  | tag (tag : TagShorthand)
  | scalar (style : ScalarStyle) (text : String)

/-- **Series:** some items in order, and why there are no more of them, unless they are
complete. -/
structure Series (α : Type) where
  items : List α
  failure : Option Malformation

/-! ### Scanning state -/

/-- **Candidate** for a key: the place where it begins. -/
structure Candidate where
  /-- The number of tokens before it. -/
  position : Nat
  index : Nat
  line : Nat
  column : Nat
  /-- Nothing but a key can stand there. -/
  isRequired : Bool

/-- **Scanner:** the state of scanning. -/
structure Scanner where
  cursor : Cursor
  tokens : Array Token
  /-- The columns of the open blocks, the innermost first. -/
  blocks : List Nat
  /-- The candidate outside all brackets. -/
  candidate : Option Candidate
  /-- The candidates in the open brackets, the innermost first. -/
  brackets : List (Option Candidate)
  /-- Whether a key may begin here. -/
  allowsKey : Bool

namespace Scanner

/-- The scanner at the start of a text. -/
def start (text : List Char) : Scanner :=
  { cursor := .start text, tokens := #[], blocks := [], candidate := none, brackets := []
    allowsKey := true }

/-- Brackets are open. -/
def inFlow (s : Scanner) : Bool := !s.brackets.isEmpty

/-- What surrounds a scalar here. -/
def around (s : Scanner) : Surroundings :=
  { inFlow := s.inFlow, margin := match s.blocks with | [] => 0 | column :: _ => column + 1 }

/-- Adds a token for text up to the given cursor. -/
def push (s : Scanner) (token : Token) (after : Cursor) : Scanner :=
  { s with tokens := s.tokens.push token, cursor := after }

/-- Adds a token for `width` characters. -/
def pushMark (s : Scanner) (token : Token) (width : Nat) : Scanner :=
  s.push token (s.cursor.skip width)

/-- Says whether a key may begin behind the last token. -/
def allowKey (s : Scanner) (allowed : Bool) : Scanner := { s with allowsKey := allowed }

/-! ### Candidates -/

/-- The candidate in the innermost bracket. -/
def currentCandidate (s : Scanner) : Option Candidate :=
  match s.brackets with
  | [] => s.candidate
  | candidate :: _ => candidate

/-- Replaces the candidate in the innermost bracket. -/
def setCandidate (s : Scanner) (candidate : Option Candidate) : Scanner :=
  match s.brackets with
  | [] => { s with candidate }
  | _ :: outer => { s with brackets := candidate :: outer }

/-- All candidates. -/
def candidates (s : Scanner) : List Candidate := (s.candidate :: s.brackets).filterMap id

/-- Gives up the candidate in the innermost bracket. -/
def dropCandidate (s : Scanner) : Except Malformation Scanner :=
  -- A key that has to be one cannot be given up before its colon.
  if s.currentCandidate.any (·.isRequired) then .error (.during .expectedColon .simpleKey)
  else .ok (s.setCandidate none)

/-- Notes that a key may begin here. -/
def addCandidate (s : Scanner) : Except Malformation Scanner :=
  if s.allowsKey then do
    let s ← s.dropCandidate
    return s.setCandidate (some
      { position := s.tokens.size, index := s.cursor.index, line := s.cursor.line
        column := s.cursor.column
        -- What begins at the column of the innermost block has to be a key.
        isRequired := !s.inFlow && s.blocks.head? = some s.cursor.column })
  else .ok s

/-- A candidate is out of date: its key would have to end on its line and within 1024
characters. -/
def isStale (s : Scanner) (candidate : Candidate) : Bool :=
  candidate.line < s.cursor.line || candidate.index + 1024 < s.cursor.index

/-- Gives up all candidates that are out of date. -/
def dropStale (s : Scanner) : Except Malformation Scanner :=
  let isFresh (candidate : Candidate) : Bool := !s.isStale candidate
  if s.candidates.any fun candidate => s.isStale candidate && candidate.isRequired then
    .error (.during .expectedColon .simpleKey)
  else .ok
    { s with
      candidate := s.candidate.filter isFresh
      brackets := s.brackets.map (·.filter isFresh) }

/-- The number of tokens before the first candidate; these can no longer change. -/
def settled (s : Scanner) : Nat :=
  (s.candidates.map (·.position)).foldl min s.tokens.size

/-! ### Blocks -/

/-- Opens a block at a column unless one is open there; its first token goes to the given
position. -/
def openBlock (s : Scanner) (column : Nat) (position : Nat) (token : Token) : Scanner :=
  -- Brackets suspend the blocks around them.
  if s.inFlow || s.blocks.head?.any (column ≤ ·) then s
  else
    { s with
      blocks := column :: s.blocks
      tokens := s.tokens.insertIdxIfInBounds position token }

/-- Opens a block where the scanner stands. -/
def openBlockHere (s : Scanner) (token : Token) : Scanner :=
  s.openBlock s.cursor.column s.tokens.size token

/-- Closes the blocks that do not pass a test, from the innermost one on. -/
def closeBlocks (s : Scanner) (stays : Nat → Bool) : Scanner :=
  if s.inFlow then s
  else
    -- Each closed block has its own end token.
    let closed := s.blocks.takeWhile (!stays ·)
    { s with
      blocks := s.blocks.dropWhile (!stays ·)
      tokens := s.tokens ++ (closed.map fun _ => Token.blockEnd).toArray }

/-! ### Steps -/

/-- The end of the text. -/
def fetchEnd (s : Scanner) : Except Malformation Scanner := do
  let cursor := s.cursor
  -- The end of the text stands on a line of its own.
  let s := if cursor.column = 0 then s
    else { s with cursor := { cursor with line := cursor.line + 1, column := 0 } }
  let s ← (s.closeBlocks fun _ => false).dropCandidate
  return (s.allowKey false).push .textEnd s.cursor

/-- A directive. -/
def fetchDirective (s : Scanner) : Except Malformation Scanner := do
  let s ← (s.closeBlocks fun _ => false).dropCandidate
  let (directive, after) ← scanDirective s.cursor
  return (s.allowKey false).push (.directive directive) after

/-- A marker of the start or of the end of a document. -/
def fetchMarker (s : Scanner) (token : Token) : Except Malformation Scanner := do
  let s ← (s.closeBlocks fun _ => false).dropCandidate
  return (s.allowKey false).pushMark token 3

/-- An opening bracket. -/
def fetchOpening (s : Scanner) (token : Token) : Except Malformation Scanner := do
  let s ← s.addCandidate
  return ({ s with brackets := none :: s.brackets }.allowKey true).pushMark token 1

/-- A closing bracket. -/
def fetchClosing (s : Scanner) (token : Token) : Except Malformation Scanner := do
  let s ← s.dropCandidate
  return ({ s with brackets := s.brackets.drop 1 }.allowKey false).pushMark token 1

/-- A comma between brackets. -/
def fetchComma (s : Scanner) : Except Malformation Scanner := do
  let s ← s.dropCandidate
  return (s.allowKey true).pushMark .flowEntry 1

/-- Opens a block for an indicator, where a block may begin. -/
def openBlockFor (s : Scanner) (token : Token) (misplaced : Problem) :
    Except Malformation Scanner :=
  if s.inFlow then .ok s
  else if s.allowsKey then .ok (s.openBlockHere token)
  else .error (.alone misplaced)

/-- The dash of an entry. -/
def fetchEntry (s : Scanner) : Except Malformation Scanner := do
  let s ← s.openBlockFor .blockSequenceStart .misplacedEntry
  let s ← s.dropCandidate
  return (s.allowKey true).pushMark .blockEntry 1

/-- The question mark of a key. -/
def fetchKey (s : Scanner) : Except Malformation Scanner := do
  let s ← s.openBlockFor .blockMappingStart .misplacedKey
  let s ← s.dropCandidate
  return (s.allowKey (!s.inFlow)).pushMark .key 1

/-- The colon of a value. If a key may have begun before it, one did. -/
def fetchValue (s : Scanner) : Except Malformation Scanner := do
  match s.currentCandidate with
  | some candidate =>
    -- The key token is put in afterwards, where the candidate began.
    let s := { s with tokens := s.tokens.insertIdxIfInBounds candidate.position .key }
    -- The start of the block goes to the same place, and so in front of the key.
    let s := s.openBlock candidate.column candidate.position .blockMappingStart
    return ((s.setCandidate none).allowKey false).pushMark .value 1
  | none =>
    let s ← s.openBlockFor .blockMappingStart .misplacedValue
    return (s.allowKey (!s.inFlow)).pushMark .value 1

/-- An anchor or alias. -/
def fetchName (s : Scanner) (token : String → Token) (context : Context) :
    Except Malformation Scanner := do
  let s ← s.addCandidate
  let (name, after) ← scanName context (s.cursor.skip 1)
  return (s.allowKey false).push (token name) after

/-- A tag. -/
def fetchTag (s : Scanner) : Except Malformation Scanner := do
  let s ← s.addCandidate
  let (tag, after) ← scanTag s.inFlow s.cursor
  return (s.allowKey false).push (.tag tag) after

/-- A block scalar. -/
def fetchBlock (s : Scanner) (style : ScalarStyle) : Except Malformation Scanner := do
  let s ← s.dropCandidate
  let (text, after) ← scanBlock s.around style (s.cursor.skip 1)
  return (s.allowKey true).push (.scalar style text) after

/-- A quoted scalar. -/
def fetchQuoted (s : Scanner) (quotes : Quotes) : Except Malformation Scanner := do
  let s ← s.addCandidate
  let (text, after) ← scanQuoted quotes [] .none (s.cursor.skip 1)
  return (s.allowKey false).push (.scalar .quoted text) after

/-- A plain scalar. A key may begin behind it if a line break follows it. -/
def fetchPlain (s : Scanner) : Except Malformation Scanner := do
  let s ← s.addCandidate
  let (text, isBroken, after) ← scanPlain s.around [] .none s.cursor
  return (s.allowKey isBroken).push (.scalar .plain text) after

/-- The character starts a token of its own kind, or none. -/
def isIndicator (c : Char) : Bool :=
  ['-', '?', ':', ',', '[', ']', '\x7b', '\x7d', '#', '&', '*', '!', '|', '>', '\'', '"', '%',
    '@', '`'].contains c

/-- A plain scalar may start with this character, given the text after it. -/
def startsPlain (inFlow : Bool) (c : Char) (after : List Char) : Bool :=
  (!isBlank c && !isIndicator c) || (c = '-' && !after.head?.any isBlank) ||
    (!inFlow && (c = '?' || c = ':') && !atWordEnd after)

/-- The next token, which starts with this character, given the text after it. -/
def fetchToken (s : Scanner) (c : Char) (after : List Char) : Except Malformation Scanner :=
  if c = '[' then s.fetchOpening .flowSequenceStart
  else if c = '\x7b' then s.fetchOpening .flowMappingStart
  else if c = ']' then s.fetchClosing .flowSequenceEnd
  else if c = '\x7d' then s.fetchClosing .flowMappingEnd
  else if c = ',' then s.fetchComma
  -- Outside brackets these three are indicators only at the end of a word, the dash everywhere.
  else if c = '-' ∧ atWordEnd after then s.fetchEntry
  else if c = '?' ∧ (s.inFlow || atWordEnd after) then s.fetchKey
  else if c = ':' ∧ (s.inFlow || atWordEnd after) then s.fetchValue
  else if c = '*' then s.fetchName .reference .aliasName
  else if c = '&' then s.fetchName .anchor .anchorName
  else if c = '!' then s.fetchTag
  -- Between brackets there are no block scalars.
  else if c = '|' ∧ !s.inFlow then s.fetchBlock .literal
  else if c = '>' ∧ !s.inFlow then s.fetchBlock .folded
  else if c = '\'' then s.fetchQuoted .single
  else if c = '"' then s.fetchQuoted .double
  else if startsPlain s.inFlow c after then s.fetchPlain
  else .error (.during .noToken .token)

/-- The white space, comments and line breaks before the next token, `fuel` lines of them. A tab
separates tokens, but not where a block may begin. -/
def skipToToken : Nat → Scanner → Scanner
  | 0, s => s
  | fuel + 1, s =>
    -- Where a block may begin, a tab would have to count as indentation.
    let skipsTab := s.inFlow || !s.allowsKey
    let cursor := (s.cursor.skipWhile fun c => c = ' ' || (skipsTab && c = '\t')).skipComment
    match cursor.next? with
    | some (c, next) =>
      if isBreak c then
        -- On a new line a key may begin again, except between brackets.
        skipToToken fuel { s with cursor := next, allowsKey := s.allowsKey || !s.inFlow }
      else { s with cursor }
    | none => { s with cursor }

/-- The byte order mark at the start of a text takes up a column, but does not count. -/
def skipMark (s : Scanner) : Scanner :=
  if s.cursor.index = 0 ∧ s.cursor.rest.head? = some '\ufeff' then
    { s with cursor := s.cursor.skip 1 }
  else s

/-- **One step:** the tokens for the next piece of the text. -/
def fetch (s : Scanner) : Except Malformation Scanner := do
  let s := skipToToken (s.cursor.rest.length + 1) s.skipMark
  let s ← s.dropStale
  -- A token further to the left ends the blocks that it is not in.
  let s := s.closeBlocks (· ≤ s.cursor.column)
  match s.cursor.rest with
  | [] => s.fetchEnd
  | c :: after =>
    -- Directives and markers are recognised in the first column only.
    if s.cursor.column = 0 ∧ c = '%' then s.fetchDirective
    else if s.cursor.atMarker '-' then s.fetchMarker .documentStart
    else if s.cursor.atMarker '.' then s.fetchMarker .documentEnd
    else s.fetchToken c after

/-- The whole text has been scanned. -/
def isAtEnd (s : Scanner) : Bool :=
  match s.tokens.back? with
  | some .textEnd => true
  | _ => false

/-- All tokens from a state on, in at most `fuel` steps. -/
def run : Nat → Scanner → Series Token
  | 0, s => ⟨s.tokens.toList, none⟩
  | fuel + 1, s =>
    match s.fetch >>= dropStale with
    -- What follows a candidate is lost: a colon might still have put tokens in front of it.
    | .error e => ⟨s.tokens.toList.take s.settled, some e⟩
    | .ok next => if next.isAtEnd then ⟨next.tokens.toList, none⟩ else run fuel next

end Scanner

/-! ### Whole texts -/

/-- The first character that no text may contain. -/
def forbiddenChar? (text : List Char) : Option Malformation :=
  let allowed := text.takeWhile isAllowed
  if allowed.length = text.length then none
  else some (.alone (.controlCharacter (String.ofList allowed).utf8ByteSize))

/-- **Tokens** of a text, up to the first malformation. Each step takes up part of the text. -/
def tokens (text : List Char) : Series Token :=
  match forbiddenChar? text with
  | some e => ⟨[], some e⟩
  | none => (Scanner.start text).run (text.length + 1)

end SchemaDiagram.Yaml
