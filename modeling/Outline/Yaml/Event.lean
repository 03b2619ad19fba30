import Outline.Yaml.Scanner

/-!
# Events of a document

Tokens are turned into events: scalars, aliases, and the beginnings and ends of sequences
and mappings. A push-down machine takes one token at a time. The stack says what is
expected next, innermost first; a frame that is done without having used the token passes
it on to the frame below.

- `Frame.step` — what a frame does with a token
- `feed` — what a stack of frames does with a token
- `firstDocument` — the events of the first document of a list of tokens
-/

namespace Outline.Yaml

/-! ## §1 Events and frames -/

/-- Anchor and tag of a node. -/
structure Properties where
  anchor : Option String := none
  tag : Option String := none

/-- A part of a document. -/
inductive Event where
  | alias (name : String)
  | scalar (properties : Properties) (text : String) (isPlain : Bool)
  | sequenceStart (properties : Properties)
  | sequenceEnd
  | mappingStart (properties : Properties)
  | mappingEnd

namespace Event

/-- A scalar that is not there. -/
def absent : Event := .scalar {} "" true

end Event

/-- What a document is expected to go on with. -/
inductive Frame where
  /-- A node, after some of its properties; the tag is not resolved yet. -/
  | node (inBlock mayBeIndentless : Bool) (anchor : Option String)
      (tag : Option (String × String))
  /-- The content of a document, which may be missing. -/
  | content
  /-- An item of a block sequence, or its end. -/
  | blockSequence
  /-- What follows the mark of an item of a block sequence. -/
  | blockItem
  /-- An item of a sequence in a mapping of the same indentation, or its end. -/
  | indentlessSequence
  /-- What follows the mark of such an item. -/
  | indentlessItem
  /-- A key of a block mapping, or its end. -/
  | blockMapping
  /-- What follows the mark of a key of a block mapping. -/
  | blockKey
  /-- The mark of a value of a block mapping, if there is one. -/
  | blockValueMark
  /-- What follows that mark. -/
  | blockValue
  /-- The first item of a flow sequence, or its end. -/
  | flowSequenceFirst
  /-- A comma in a flow sequence, or its end. -/
  | flowSequence
  /-- What follows that comma. -/
  | flowItem
  /-- The key of a single pair in a flow sequence. -/
  | pairKey
  /-- The mark of the value of such a pair, if there is one. -/
  | pairValueMark
  /-- What follows that mark. -/
  | pairValue
  /-- The end of such a pair. -/
  | pairEnd
  /-- The first key of a flow mapping, or its end. -/
  | flowMappingFirst
  /-- A comma in a flow mapping, or its end. -/
  | flowMapping
  /-- What follows that comma. -/
  | flowMember
  /-- What follows the mark of a key of a flow mapping. -/
  | flowKey
  /-- The mark of a value of a flow mapping, if there is one. -/
  | flowValueMark
  /-- What follows that mark. -/
  | flowValue
  /-- The value of a key that had no mark and so has no value. -/
  | flowNoValue

/-- What a frame does with a token. The events come in any case. -/
inductive Reaction where
  /-- The token is used, and the frame gives way to others. -/
  | used (events : List Event) (frames : List Frame)
  /-- The frame is done, and the token is for the frame below. -/
  | passed (events : List Event)
  /-- The token is refused. -/
  | refused (events : List Event)

namespace Reaction

/-- Puts events in front. -/
def after (earlier : List Event) : Reaction → Reaction
  | used events frames => used (earlier ++ events) frames
  | passed events => passed (earlier ++ events)
  | refused events => refused (earlier ++ events)

/-- Puts a frame below those a token leads to. -/
def thenBack (frame : Frame) : Reaction → Reaction
  | used events frames => used events (frames ++ [frame])
  | passed events => passed events
  | refused events => refused events

end Reaction

/-! ## §2 Tags -/

/-- Handles of tags with what they stand for. -/
abbrev Handles := List (String × String)

/-- The handles of every document. -/
def defaultHandles : Handles := [("!", "!"), ("!!", "tag:yaml.org,2002:")]

/-- A tag in full. Without a handle it is in full already; an unknown handle is refused. -/
def fullText (handles : Handles) (handle suffix : String) : Option String :=
  if handle.isEmpty then some suffix
  else (handles.lookup handle).map fun start => start ++ suffix

/-- The properties of a node, with its tag in full. -/
def properties? (handles : Handles) (anchor : Option String) (tag : Option (String × String)) :
    Option Properties :=
  match tag with
  | none => some { anchor }
  | some (handle, suffix) =>
    (fullText handles handle suffix).map fun tag => { anchor, tag := some tag }

/-! ## §3 One frame -/

namespace Frame

/-- The content of a node whose properties have been read. A node with properties may have
    no content. -/
def nodeContent (inBlock mayBeIndentless : Bool) (properties : Properties) (token : Token) :
    Reaction :=
  match token with
  | .scalar text isPlain => .used [.scalar properties text isPlain] []
  | .flowSequenceStart => .used [.sequenceStart properties] [.flowSequenceFirst]
  | .flowMappingStart => .used [.mappingStart properties] [.flowMappingFirst]
  | token =>
    if mayBeIndentless && token = .blockEntry then
      .used [.sequenceStart properties] [.indentlessItem]
    else if inBlock && token = .blockSequenceStart then
      .used [.sequenceStart properties] [.blockSequence]
    else if inBlock && token = .blockMappingStart then
      .used [.mappingStart properties] [.blockMapping]
    -- properties alone make an empty scalar, and the token is for someone else
    else if properties.anchor.isSome || properties.tag.isSome then
      .passed [.scalar properties "" true]
    else .refused []

/-- A node: an alias, or properties in any order, each at most once, and content. -/
def nodeStep (handles : Handles) (inBlock mayBeIndentless : Bool) (anchor : Option String)
    (tag : Option (String × String)) (token : Token) : Reaction :=
  let content (token : Token) : Reaction :=
    match properties? handles anchor tag with
    | none => .refused []
    | some properties => nodeContent inBlock mayBeIndentless properties token
  match token with
  | .alias name =>
    if anchor.isNone && tag.isNone then .used [.alias name] [] else content token
  | .anchor name =>
    if anchor.isNone then .used [] [.node inBlock mayBeIndentless (some name) tag]
    else content token
  | .tag handle suffix =>
    if tag.isNone then .used [] [.node inBlock mayBeIndentless anchor (some (handle, suffix))]
    else content token
  | token => content token

/-- A key of a block mapping, or its end. -/
def blockMappingStep : Token → Reaction
  | .key => .used [] [.blockKey]
  | .blockEnd => .used [.mappingEnd] []
  | _ => .refused []

/-- A comma in a flow mapping, or its end. -/
def flowMappingStep : Token → Reaction
  | .flowMappingEnd => .used [.mappingEnd] []
  | .flowEntry => .used [] [.flowMember]
  | _ => .refused []

/-- What a frame does with a token. -/
def step (handles : Handles) (frame : Frame) (token : Token) : Reaction :=
  let blockNode (mayBeIndentless : Bool) : Reaction :=
    nodeStep handles true mayBeIndentless none none token
  let flowNode : Reaction := nodeStep handles false false none none token
  let item : Reaction :=
    match token with
    | .flowSequenceEnd => .used [.sequenceEnd] []
    | .key => .used [.mappingStart {}] [.pairKey, .flowSequence]
    | _ => flowNode.thenBack .flowSequence
  let member : Reaction :=
    match token with
    | .flowMappingEnd => .used [.mappingEnd] []
    | .key => .used [] [.flowKey]
    | _ => flowNode.thenBack .flowNoValue
  match frame with
  | .node inBlock mayBeIndentless anchor tag =>
    nodeStep handles inBlock mayBeIndentless anchor tag token
  | .content =>
    match token with
    | .versionDirective _ _ | .tagDirective _ _ | .documentStart | .documentEnd | .streamEnd =>
      .passed [.absent]
    | _ => blockNode false
  | .blockSequence =>
    match token with
    | .blockEntry => .used [] [.blockItem]
    | .blockEnd => .used [.sequenceEnd] []
    | _ => .refused []
  | .blockItem =>
    match token with
    | .blockEntry => .used [.absent] [.blockItem]
    | .blockEnd => .used [.absent, .sequenceEnd] []
    | _ => (blockNode false).thenBack .blockSequence
  | .indentlessSequence =>
    match token with
    -- no token of its own ends such a sequence
    | .blockEntry => .used [] [.indentlessItem]
    | _ => .passed [.sequenceEnd]
  | .indentlessItem =>
    match token with
    | .blockEntry => .used [.absent] [.indentlessItem]
    | .key | .value | .blockEnd => .passed [.absent, .sequenceEnd]
    | _ => (blockNode false).thenBack .indentlessSequence
  | .blockMapping => blockMappingStep token
  | .blockKey =>
    match token with
    -- neither key nor value are there
    | .key | .blockEnd => (blockMappingStep token).after [.absent, .absent]
    | .value => .used [.absent] [.blockValue]
    | _ => (blockNode true).thenBack .blockValueMark
  | .blockValueMark =>
    match token with
    | .value => .used [] [.blockValue]
    | _ => (blockMappingStep token).after [.absent]
  | .blockValue =>
    match token with
    | .key | .value | .blockEnd => (blockMappingStep token).after [.absent]
    | _ => (blockNode true).thenBack .blockMapping
  | .flowSequenceFirst => item
  | .flowSequence =>
    match token with
    | .flowSequenceEnd => .used [.sequenceEnd] []
    | .flowEntry => .used [] [.flowItem]
    | _ => .refused []
  | .flowItem => item
  | .pairKey =>
    match token with
    -- the token is used up together with the key that is not there
    | .value | .flowEntry | .flowSequenceEnd => .used [.absent] [.pairValueMark]
    | _ => flowNode.thenBack .pairValueMark
  | .pairValueMark =>
    match token with
    | .value => .used [] [.pairValue]
    | _ => .passed [.absent, .mappingEnd]
  | .pairValue =>
    match token with
    | .flowEntry | .flowSequenceEnd => .passed [.absent, .mappingEnd]
    | _ => flowNode.thenBack .pairEnd
  | .pairEnd => .passed [.mappingEnd]
  | .flowMappingFirst => member
  | .flowMapping => flowMappingStep token
  | .flowMember => member
  | .flowKey =>
    match token with
    | .value => .used [.absent] [.flowValue]
    | .flowEntry | .flowMappingEnd => (flowMappingStep token).after [.absent, .absent]
    | _ => flowNode.thenBack .flowValueMark
  | .flowValueMark =>
    match token with
    | .value => .used [] [.flowValue]
    | _ => (flowMappingStep token).after [.absent]
  | .flowValue =>
    match token with
    | .flowEntry | .flowMappingEnd => (flowMappingStep token).after [.absent]
    | _ => flowNode.thenBack .flowMapping
  | .flowNoValue => (flowMappingStep token).after [.absent]

end Frame

/-! ## §4 The stack -/

/-- What a stack of frames does with a token. -/
inductive Progress where
  /-- The token is used, and more is expected unless there are no frames left. -/
  | goOn (frames : List Frame)
  /-- Nothing more is expected, and the token is not used. -/
  | finished
  /-- The token is refused. -/
  | stopped

/-- Hands a token to the innermost frame, and on to those below as long as it is passed. -/
def feed (handles : Handles) : List Frame → Token → List Event × Progress
  | [], _ => ([], .finished)
  | frame :: below, token =>
    match frame.step handles token with
    | .used events frames => (events, .goOn (frames ++ below))
    | .refused events => (events, .stopped)
    | .passed events =>
      let (more, progress) := feed handles below token
      (events ++ more, progress)

/-- Feeds tokens until nothing more is expected. The tokens that are left are there unless
    one was refused or they ran out. -/
def run (handles : Handles) : List Frame → List Token → List Event × Option (List Token)
  | [], tokens => ([], some tokens)
  | _ :: _, [] => ([], none)
  | frame :: below, token :: rest =>
    match feed handles (frame :: below) token with
    | (events, .goOn frames) =>
      let (more, left) := run handles frames rest
      (events ++ more, left)
    | (events, .finished) => (events, some (token :: rest))
    | (events, .stopped) => (events, none)

/-! ## §5 Documents -/

/-- The events of the first document. -/
structure DocumentEvents where
  /-- The events up to the end of the document, or up to where the text is refused; there
      are none at all for a text without a document. -/
  events : Option (List Event)
  /-- Whether the document ends, and nothing but the end of the text follows it. -/
  isAlone : Bool

/-- The directives in front of a document: the handles they define, and the tokens from the
    mark of the document on. Only versions 1.1 and 1.2 are known, and nothing is defined
    twice. -/
def directives (hasVersion : Bool) (handles : Handles) : List Token → Option (Handles × List Token)
  | .versionDirective major minor :: rest =>
    if hasVersion || major ≠ 1 || (minor ≠ 1 && minor ≠ 2) then none
    else directives true handles rest
  | .tagDirective handle start :: rest =>
    if (handles.lookup handle).isSome then none
    else directives hasVersion ((handle, start) :: handles) rest
  | .documentStart :: rest => some (handles ++ defaultHandles, rest)
  | _ => none

/-- Whether nothing but the end of the text follows a document. -/
def endsStream (tokens : List Token) : Bool :=
  match tokens.dropWhile (· = .documentEnd) with
  | .streamEnd :: _ => true
  | _ => false

/-- The events of a document that begins with a frame. -/
def documentFrom (handles : Handles) (frame : Frame) (tokens : List Token) : DocumentEvents :=
  let (events, left) := run handles [frame] tokens
  ⟨some events, match left with
    | some tokens => endsStream tokens
    | none => false⟩

/-- The events of the first document of a list of tokens. -/
def firstDocument : List Token → DocumentEvents
  -- a text without tokens has no document at all
  | .streamStart :: .streamEnd :: _ => ⟨none, true⟩
  | .streamStart :: token :: rest =>
    match token with
    | .versionDirective _ _ | .tagDirective _ _ | .documentStart =>
      match directives false [] (token :: rest) with
      | none => ⟨some [], false⟩
      | some (handles, rest) => documentFrom handles .content rest
    | _ => documentFrom defaultHandles (.node true false none none) (token :: rest)
  | _ => ⟨some [], false⟩

end Outline.Yaml
