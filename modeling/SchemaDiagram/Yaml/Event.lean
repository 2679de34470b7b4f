import SchemaDiagram.Yaml.Token

/-!
# Events of a YAML document

The nodes of a document in the order of the text: a scalar or alias is one event, a sequence or
mapping has one at its start and one at its end. A mapping contains keys and values in turn;
what is left out between its indicators is an empty plain scalar.

The tokens are read by a machine whose state is a stack of `Place`s, each of which says what may
come next there.

* `Machine.step`: one step, which yields at most one event;
* `Machine.document`: the events of one document, up to the end or the first malformation.
-/

namespace SchemaDiagram.Yaml

/-! ### Events -/

/-- **Scalar** with its tag, if it has one. -/
structure Scalar where
  tag : Option String
  style : ScalarStyle
  text : String

/-- **Event.** -/
inductive Event where
  | reference (name : String)
  | scalar (anchor : Option String) (scalar : Scalar)
  | sequenceStart (anchor : Option String)
  | sequenceEnd
  | mappingStart (anchor : Option String)
  | mappingEnd

/-- The event of a value that is left out. -/
def Event.empty : Event := .scalar none ⟨none, .plain, ""⟩

/-! ### The machine -/

/-- **Place** in a document: what is expected there. -/
inductive Place where
  /-- The content of a document after a marker. -/
  | content
  /-- A node of a block. -/
  | node
  | documentEnd
  | blockSequence
  /-- A sequence at the indentation of the mapping around it. -/
  | looseSequence
  | blockKey
  | blockValue
  /-- An entry between brackets, after a comma unless it is the first one. -/
  | flowSequence (first : Bool)
  /-- The key of a mapping of one pair in a sequence between brackets. -/
  | pairKey
  | pairValue
  | pairEnd
  /-- A key between braces, after a comma unless it is the first one. -/
  | flowKey (first : Bool)
  | flowValue
  /-- The value of a key that no colon follows. -/
  | flowNoValue

/-- **Machine:** the tokens that follow, the places that are open, the innermost first, and the
texts for handles. -/
structure Machine where
  tokens : Series Token
  places : List Place
  handles : List (String × String)

namespace Machine

/-- The next token. -/
def peek (m : Machine) : Except Malformation Token :=
  match m.tokens.items, m.tokens.failure with
  -- Tokens that were scanned before a malformation are still good.
  | token :: _, _ => .ok token
  | [], some e => .error e
  -- Behind the last token the end is reported again and again.
  | [], none => .ok .textEnd

/-- The machine after the next token. -/
def advance (m : Machine) : Machine :=
  { m with tokens := { m.tokens with items := m.tokens.items.drop 1 } }

/-- The machine in a state of these places. -/
def goTo (m : Machine) (places : List Place) : Machine := { m with places }

/-! ### Nodes -/

/-- The anchor and the tag before a node, in any order. -/
structure Properties where
  anchor : Option String
  tag : Option TagShorthand

/-- Reads the anchor and the tag before a node. -/
def properties (m : Machine) : Except Malformation (Properties × Machine) := do
  match ← m.peek with
  | .anchor name =>
    let m := m.advance
    match ← m.peek with
    | .tag tag => return (⟨some name, some tag⟩, m.advance)
    | _ => return (⟨some name, none⟩, m)
  | .tag tag =>
    let m := m.advance
    match ← m.peek with
    | .anchor name => return (⟨some name, some tag⟩, m.advance)
    | _ => return (⟨none, some tag⟩, m)
  | _ => return (⟨none, none⟩, m)

/-- A tag in full: the text for its handle with the suffix after it. -/
def fullTag (m : Machine) (tag : TagShorthand) : Except Malformation String :=
  if tag.handle = "" then .ok tag.suffix
  else match m.handles.lookup tag.handle with
    | some text => .ok (text ++ tag.suffix)
    | none => .error (.during .undefinedHandle .node)

/-- The tag of a scalar; the tag `!` says no more than none. -/
def scalarTag (tag : Option String) : Option String := tag.filter (· ≠ "!")

/-- **Reading a node.** In a block the node may be a block itself, as the value of a mapping
also a sequence without indentation of its own. `outer` are the places to go on with. -/
def node (m : Machine) (inBlock looseAllowed : Bool) (outer : List Place) :
    Except Malformation (List Event × Machine) := do
  match ← m.peek with
  | .reference name => return ([.reference name], m.advance.goTo outer)
  | _ =>
    let (properties, m) ← m.properties
    let token ← m.peek
    -- The handle is looked up before the content, so that an unknown one is reported first.
    let tag ← properties.tag.mapM m.fullTag
    let anchor := properties.anchor
    match token, inBlock with
    | .scalar style text, _ =>
      return ([.scalar anchor ⟨scalarTag tag, style, text⟩], m.advance.goTo outer)
    | .flowSequenceStart, _ =>
      return ([.sequenceStart anchor], m.advance.goTo (.flowSequence true :: outer))
    | .flowMappingStart, _ =>
      return ([.mappingStart anchor], m.advance.goTo (.flowKey true :: outer))
    | .blockSequenceStart, true =>
      return ([.sequenceStart anchor], m.advance.goTo (.blockSequence :: outer))
    | .blockMappingStart, true =>
      return ([.mappingStart anchor], m.advance.goTo (.blockKey :: outer))
    | _, _ =>
      -- No content starts here: this is a sequence at the column of its key, an empty scalar with
      -- an anchor or a tag, or a mistake.
      if looseAllowed && token matches .blockEntry then
        return ([.sequenceStart anchor], m.goTo (.looseSequence :: outer))
      else if anchor.isSome || tag.isSome then
        return ([.scalar anchor ⟨tag, .plain, ""⟩], m.goTo outer)
      else
        throw (.during .expectedContent (if inBlock then .blockNode else .flowNode))

/-- A value that is left out; `outer` are the places to go on with. -/
def absent (m : Machine) (outer : List Place) : List Event × Machine := ([.empty], m.goTo outer)

/-! ### Places -/

/-- The content of a document after its marker. -/
def stepContent (m : Machine) (outer : List Place) :
    Except Malformation (List Event × Machine) := do
  match ← m.peek with
  | .directive _ | .documentStart | .documentEnd | .textEnd => return m.absent outer
  | _ => m.node true false outer

/-- The end of a document. -/
def stepDocumentEnd (m : Machine) (outer : List Place) :
    Except Malformation (List Event × Machine) := do
  match ← m.peek with
  | .documentEnd => return ([], m.advance.goTo outer)
  | _ => return ([], m.goTo outer)

/-- An entry of a block sequence or its end. -/
def stepBlockSequence (m : Machine) (outer : List Place) :
    Except Malformation (List Event × Machine) := do
  match ← m.peek with
  | .blockEntry =>
    let m := m.advance
    -- A dash with nothing behind it stands for an absent value.
    match ← m.peek with
    | .blockEntry | .blockEnd => return m.absent (.blockSequence :: outer)
    | _ => m.node true false (.blockSequence :: outer)
  | .blockEnd => return ([.sequenceEnd], m.advance.goTo outer)
  | _ => throw (.during .expectedDash .blockSequence)

/-- An entry of a sequence without indentation of its own, or its end. -/
def stepLooseSequence (m : Machine) (outer : List Place) :
    Except Malformation (List Event × Machine) := do
  match ← m.peek with
  | .blockEntry =>
    let m := m.advance
    match ← m.peek with
    | .blockEntry | .key | .value | .blockEnd => return m.absent (.looseSequence :: outer)
    | _ => m.node true false (.looseSequence :: outer)
  -- The end has no token, since the sequence opened no block.
  | _ => return ([.sequenceEnd], m.goTo outer)

/-- A key of a block mapping or its end. -/
def stepBlockKey (m : Machine) (outer : List Place) :
    Except Malformation (List Event × Machine) := do
  match ← m.peek with
  | .key =>
    let m := m.advance
    -- The key is empty, and what was peeked at belongs to its value or to what follows.
    match ← m.peek with
    | .key | .value | .blockEnd => return m.absent (.blockValue :: outer)
    | _ => m.node true true (.blockValue :: outer)
  | .blockEnd => return ([.mappingEnd], m.advance.goTo outer)
  | _ => throw (.during .expectedKey .blockMapping)

/-- A value of a block mapping. -/
def stepBlockValue (m : Machine) (outer : List Place) :
    Except Malformation (List Event × Machine) := do
  match ← m.peek with
  | .value =>
    let m := m.advance
    match ← m.peek with
    | .key | .value | .blockEnd => return m.absent (.blockKey :: outer)
    | _ => m.node true true (.blockKey :: outer)
  | _ => return m.absent (.blockKey :: outer)

/-- Reads the comma before an entry between brackets that is not the first one. -/
def comma (m : Machine) (first : Bool) (missing : Malformation) : Except Malformation Machine := do
  if first then return m
  else match ← m.peek with
    | .flowEntry => return m.advance
    | _ => throw missing

/-- An entry of a sequence between brackets or its end. An entry with a key is a mapping of one
pair. -/
def stepFlowSequence (m : Machine) (first : Bool) (outer : List Place) :
    Except Malformation (List Event × Machine) := do
  -- A bracket may close the sequence before any comma is asked for.
  if (← m.peek) matches .flowSequenceEnd then
    return ([.sequenceEnd], m.advance.goTo outer)
  let m ← m.comma first (.during .expectedCommaOrBracket .flowSequence)
  match ← m.peek with
  -- A comma may stand before the bracket.
  | .flowSequenceEnd => return ([.sequenceEnd], m.advance.goTo outer)
  | .key =>
    return ([.mappingStart none], m.advance.goTo (.pairKey :: .flowSequence false :: outer))
  | _ => m.node false false (.flowSequence false :: outer)

/-- The key of a mapping of one pair. The token where it is left out is passed over. -/
def stepPairKey (m : Machine) (outer : List Place) :
    Except Malformation (List Event × Machine) := do
  match ← m.peek with
  | .value | .flowEntry | .flowSequenceEnd => return m.advance.absent (.pairValue :: outer)
  | _ => m.node false false (.pairValue :: outer)

/-- The value of a mapping of one pair. -/
def stepPairValue (m : Machine) (outer : List Place) :
    Except Malformation (List Event × Machine) := do
  match ← m.peek with
  | .value =>
    let m := m.advance
    match ← m.peek with
    | .flowEntry | .flowSequenceEnd => return m.absent (.pairEnd :: outer)
    | _ => m.node false false (.pairEnd :: outer)
  | _ => return m.absent (.pairEnd :: outer)

/-- A key of a mapping between braces or its end. -/
def stepFlowKey (m : Machine) (first : Bool) (outer : List Place) :
    Except Malformation (List Event × Machine) := do
  if (← m.peek) matches .flowMappingEnd then
    return ([.mappingEnd], m.advance.goTo outer)
  let m ← m.comma first (.during .expectedCommaOrBrace .flowMapping)
  match ← m.peek with
  | .flowMappingEnd => return ([.mappingEnd], m.advance.goTo outer)
  | .key =>
    let m := m.advance
    match ← m.peek with
    | .value | .flowEntry | .flowMappingEnd => return m.absent (.flowValue :: outer)
    | _ => m.node false false (.flowValue :: outer)
  -- Without a question mark or a colon the node is a key with no value.
  | _ => m.node false false (.flowNoValue :: outer)

/-- A value of a mapping between braces. -/
def stepFlowValue (m : Machine) (outer : List Place) :
    Except Malformation (List Event × Machine) := do
  match ← m.peek with
  | .value =>
    let m := m.advance
    match ← m.peek with
    | .flowEntry | .flowMappingEnd => return m.absent (.flowKey false :: outer)
    | _ => m.node false false (.flowKey false :: outer)
  | _ => return m.absent (.flowKey false :: outer)

/-- **One step** at the given place inside others. -/
def step (m : Machine) (place : Place) (outer : List Place) :
    Except Malformation (List Event × Machine) :=
  match place with
  | .content => m.stepContent outer
  | .node => m.node true false outer
  | .documentEnd => m.stepDocumentEnd outer
  | .blockSequence => m.stepBlockSequence outer
  | .looseSequence => m.stepLooseSequence outer
  | .blockKey => m.stepBlockKey outer
  | .blockValue => m.stepBlockValue outer
  | .flowSequence first => m.stepFlowSequence first outer
  | .pairKey => m.stepPairKey outer
  | .pairValue => m.stepPairValue outer
  | .pairEnd => .ok ([.mappingEnd], m.goTo outer)
  | .flowKey first => m.stepFlowKey first outer
  | .flowValue => m.stepFlowValue outer
  | .flowNoValue => .ok (m.absent (.flowKey false :: outer))

/-- The events from a state on until no place is open, in at most `fuel` steps, and the state
after them. -/
def run : Nat → Machine → Series Event × Machine
  | 0, m => (⟨[], none⟩, m)
  | fuel + 1, m =>
    match m.places with
    | [] => (⟨[], none⟩, m)
    | place :: outer =>
      match m.step place outer with
      | .error e => (⟨[], some e⟩, m)
      | .ok (events, next) =>
        let (rest, final) := run fuel next
        (⟨events ++ rest.items, rest.failure⟩, final)

/-! ### Documents -/

/-- The handles that every document knows. -/
def standardHandles : List (String × String) := [("!", "!"), ("!!", "tag:yaml.org,2002:")]

/-- Reads the directives before a document; `hasVersion` if one of them was about the version. -/
def directives (m : Machine) (hasVersion : Bool) : List Token → Except Malformation Machine
  -- A second version is refused whatever it says.
  | .directive (.version major minor) :: rest =>
    if hasVersion then .error (.alone .duplicateVersion)
    else if major ≠ 1 ∨ (minor ≠ 1 ∧ minor ≠ 2) then .error (.alone .wrongVersion)
    else m.advance.directives true rest
  | .directive (.tag handle text) :: rest =>
    if (m.handles.lookup handle).isSome then .error (.alone .duplicateHandle)
    else directives { m.advance with handles := m.handles ++ [(handle, text)] } hasVersion rest
  | _ => .ok { m with handles := m.handles ++ standardHandles }

/-- The machine at the start of the first document, or none if there is no document. A document
may start without a marker if no directive stands before it. -/
def opening (m : Machine) : Except Malformation (Option Machine) := do
  match ← m.peek with
  | .textEnd => return none
  | .directive _ | .documentStart =>
    let m ← m.directives false m.tokens.items
    match ← m.peek with
    | .documentStart => return some (m.advance.goTo [.content, .documentEnd])
    | _ => throw (.alone .expectedDocumentStart)
  -- Without a marker the first node has to be there.
  | _ => return some ((← m.directives false []).goTo [.node, .documentEnd])

/-- After a document nothing follows but markers of its end. -/
def isFinished (m : Machine) : Bool :=
  let rest := m.tokens.items.dropWhile (· matches .documentEnd)
  match rest, m.tokens.failure with
  | .textEnd :: _, _ => true
  | [], none => true
  | _, _ => false

end Machine

/-- **Events of a text:** those of its first document, if there is one, and whether nothing
follows it. There are fewer steps than four for each token. -/
def events (text : List Char) : Option (Series Event) × Bool :=
  let tokens := tokens text
  match (Machine.opening ⟨tokens, [], []⟩) with
  | .error e => (some ⟨[], some e⟩, true)
  | .ok none => (none, true)
  | .ok (some m) =>
    let (events, final) := m.run (4 * tokens.items.length + 8)
    (some events, final.isFinished)

end SchemaDiagram.Yaml
