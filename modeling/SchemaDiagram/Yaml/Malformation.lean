/-!
# Malformations of YAML texts

Why a text is not YAML: what is wrong, and in the middle of what it was noticed. The text of a
malformation names both.
-/

namespace SchemaDiagram.Yaml

/-- What is wrong. -/
inductive Problem where
  /-- A character that no YAML text may contain, with the number of bytes before it. -/
  | controlCharacter (offset : Nat)
  /-- No token starts with this character. -/
  | noToken
  /-- A key was begun and no colon follows it. -/
  | expectedColon
  | misplacedEntry
  | misplacedKey
  | misplacedValue
  | expectedDirectiveName
  | badDirectiveName
  | unknownDirective
  | expectedLineEnd
  | expectedVersionDot
  | longVersion
  | expectedVersion
  | expectedBlank
  | expectedBlankOrBreak
  | expectedAnchorName
  | expectedHandle
  | expectedUri
  | expectedUriEnd
  | badUriEscape
  | badLeadingOctet
  | badTrailingOctet
  | zeroIndentation
  | tabForIndentation
  | tabBelowIndentation
  | markerInScalar
  | endInScalar
  | unknownEscape
  | expectedHexDigit
  | badCodePoint
  | misplacedColon
  | expectedDocumentStart
  | duplicateVersion
  | wrongVersion
  | duplicateHandle
  | undefinedHandle
  | expectedContent
  | expectedDash
  | expectedKey
  | expectedCommaOrBracket
  | expectedCommaOrBrace
  deriving DecidableEq

/-- What was being read. -/
inductive Context where
  | token
  | simpleKey
  | directive
  | versionDirective
  | tagDirective
  /-- The handle of a tag directive, before its first character. -/
  | handleStart
  /-- The handle of a tag directive, at its last character. -/
  | handleEnd
  /-- The text that a tag directive gives to its handle. -/
  | directiveUri
  | anchorName
  | aliasName
  | tag
  | tagUri
  | blockScalar
  | quotedScalar
  | escape
  | plainScalar
  | node
  | blockNode
  | flowNode
  | blockSequence
  | blockMapping
  | flowSequence
  | flowMapping
  deriving DecidableEq

/-- **Malformation:** the problem, and what was being read, where that helps. -/
structure Malformation where
  problem : Problem
  context : Option Context
  deriving DecidableEq

/-- A malformation noticed while something was being read. -/
def Malformation.during (problem : Problem) (context : Context) : Malformation :=
  ⟨problem, some context⟩

/-- A malformation without context. -/
def Malformation.alone (problem : Problem) : Malformation := ⟨problem, none⟩

/-- The text of a problem. -/
def Problem.message : Problem → String
  | controlCharacter offset =>
    "control characters are not allowed" ++
      (if offset = 0 then "" else " at position " ++ toString offset)
  | noToken => "found character that cannot start any token"
  | expectedColon => "could not find expected ':'"
  | misplacedEntry => "block sequence entries are not allowed in this context"
  | misplacedKey => "mapping keys are not allowed in this context"
  | misplacedValue => "mapping values are not allowed in this context"
  | expectedDirectiveName => "could not find expected directive name"
  | badDirectiveName => "found unexpected non-alphabetical character"
  | unknownDirective => "found unknown directive name"
  | expectedLineEnd => "did not find expected comment or line break"
  | expectedVersionDot => "did not find expected digit or '.' character"
  | longVersion => "found extremely long version number"
  | expectedVersion => "did not find expected version number"
  | expectedBlank => "did not find expected whitespace"
  | expectedBlankOrBreak => "did not find expected whitespace or line break"
  | expectedAnchorName => "did not find expected alphabetic or numeric character"
  | expectedHandle => "did not find expected '!'"
  | expectedUri => "did not find expected tag URI"
  | expectedUriEnd => "did not find the expected '>'"
  | badUriEscape => "did not find URI escaped octet"
  | badLeadingOctet => "found an incorrect leading UTF-8 octet"
  | badTrailingOctet => "found an incorrect trailing UTF-8 octet"
  | zeroIndentation => "found an indentation indicator equal to 0"
  | tabForIndentation => "found a tab character where an indentation space is expected"
  | tabBelowIndentation => "found a tab character that violates indentation"
  | markerInScalar => "found unexpected document indicator"
  | endInScalar => "found unexpected end of stream"
  | unknownEscape => "found unknown escape character"
  | expectedHexDigit => "did not find expected hexdecimal number"
  | badCodePoint => "found invalid Unicode character escape code"
  | misplacedColon => "found unexpected ':'"
  | expectedDocumentStart => "did not find expected <document start>"
  | duplicateVersion => "found duplicate %YAML directive"
  | wrongVersion => "found incompatible YAML document"
  | duplicateHandle => "found duplicate %TAG directive"
  | undefinedHandle => "found undefined tag handle"
  | expectedContent => "did not find expected node content"
  | expectedDash => "did not find expected '-' indicator"
  | expectedKey => "did not find expected key"
  | expectedCommaOrBracket => "did not find expected ',' or ']'"
  | expectedCommaOrBrace => "did not find expected ',' or '\x7d'"

/-- The text of a context. -/
def Context.message : Context → String
  | token => "while scanning for the next token"
  | simpleKey => "while scanning a simple key"
  | directive => "while scanning a directive"
  | versionDirective => "while scanning a %YAML directive"
  | tagDirective => "while scanning a %TAG directive"
  | handleStart => "while scanning a tag directive"
  | handleEnd => "while parsing a tag directive"
  | directiveUri => "while parsing a %TAG directive"
  | anchorName => "while scanning an anchor"
  | aliasName => "while scanning an alias"
  | tag => "while scanning a tag"
  | tagUri => "while parsing a tag"
  | blockScalar => "while scanning a block scalar"
  | quotedScalar => "while scanning a quoted scalar"
  | escape => "while parsing a quoted scalar"
  | plainScalar => "while scanning a plain scalar"
  | node => "while parsing a node"
  | blockNode => "while parsing a block node"
  | flowNode => "while parsing a flow node"
  | blockSequence => "while parsing a block collection"
  | blockMapping => "while parsing a block mapping"
  | flowSequence => "while parsing a flow sequence"
  | flowMapping => "while parsing a flow mapping"

/-- The text of a malformation. -/
def Malformation.message (m : Malformation) : String :=
  match m.context with
  | some context => m.problem.message ++ ", " ++ context.message
  | none => m.problem.message

end SchemaDiagram.Yaml
