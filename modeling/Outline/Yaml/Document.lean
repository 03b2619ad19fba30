import Outline.Yaml.Event

/-!
# Documents

A document is a tree of scalars, sequences and mappings, in which aliases refer to nodes
with anchors. The tree of a text that is refused breaks off: where the first missing event
would have come, it has a broken node.

- `number` — anchors and aliases by number, up to the first unknown alias
- `Content.ofEvents` — the tree of a list of events
- `Document.ofText` — the document of a text
-/

namespace Outline.Yaml

/-! ## §1 Contents -/

/-- A node of a document. -/
inductive Content where
  | scalar (anchor : Option Nat) (tag : Option String) (text : String) (isPlain : Bool)
  /-- A reference to the node with this anchor. -/
  | alias (anchor : Nat)
  | sequence (anchor : Option Nat) (tag : Option String) (items : List Content)
  /-- A mapping; keys and values take turns. -/
  | mapping (anchor : Option Nat) (tag : Option String) (members : List Content)
  /-- Nothing at all, in a text without a document. -/
  | void
  /-- The place where the text is refused. -/
  | broken

namespace Content

mutual
/-- Whether no part of the node is broken. -/
def isComplete : Content → Bool
  | .broken => false
  | .sequence _ _ items => areComplete items
  | .mapping _ _ members => areComplete members
  | _ => true

/-- Whether no part of any node of a list is broken. -/
def areComplete : List Content → Bool
  | [] => true
  | content :: rest => isComplete content && areComplete rest
end

mutual
/-- The nodes with anchors, in the order in which they begin. -/
def anchored : Content → List (Nat × Content)
  | .scalar (some anchor) tag text isPlain => [(anchor, .scalar (some anchor) tag text isPlain)]
  | .sequence anchor tag items =>
    (match anchor with
      | some n => [(n, .sequence anchor tag items)]
      | none => []) ++ anchoredEach items
  | .mapping anchor tag members =>
    (match anchor with
      | some n => [(n, .mapping anchor tag members)]
      | none => []) ++ anchoredEach members
  | _ => []

/-- The nodes with anchors in a list of nodes. -/
def anchoredEach : List Content → List (Nat × Content)
  | [] => []
  | content :: rest => anchored content ++ anchoredEach rest
end

end Content

/-! ## §2 Anchors by number -/

/-- The properties of a node, its anchor by number. -/
structure Numbered where
  anchor : Option Nat
  tag : Option String

/-- A part of a document, with anchors by number. -/
inductive Part where
  | alias (anchor : Nat)
  | scalar (properties : Numbered) (text : String) (isPlain : Bool)
  | sequenceStart (properties : Numbered)
  | mappingStart (properties : Numbered)
  /-- The end of a sequence or mapping. -/
  | close

/-- Names of anchors with their numbers, the latest first. -/
abbrev Anchors := List (String × Nat)

/-- The number of the next anchor is the number of different names so far, so that a name
    used again makes two anchors share a number. -/
def define (anchors : Anchors) (properties : Properties) : Anchors × Numbered :=
  match properties.anchor with
  | none => (anchors, ⟨none, properties.tag⟩)
  | some name =>
    -- the number counts names, so it does not grow when a name comes again
    let others := anchors.filter (·.1 ≠ name)
    ((name, anchors.length) :: others, ⟨some anchors.length, properties.tag⟩)

/-- Replaces names of anchors by numbers, up to the first alias without an anchor. The flag
    tells whether all events are there. -/
def number (anchors : Anchors) : List Event → List Part × Bool
  | [] => ([], true)
  | event :: rest =>
    let goOn (anchors : Anchors) (part : Part) : List Part × Bool :=
      let (parts, isWhole) := number anchors rest
      (part :: parts, isWhole)
    match event with
    | .alias name =>
      match anchors.lookup name with
      | some n => goOn anchors (.alias n)
      -- nothing behind an unknown alias counts
      | none => ([], false)
    | .scalar properties text isPlain =>
      let (anchors, properties) := define anchors properties
      goOn anchors (.scalar properties text isPlain)
    | .sequenceStart properties =>
      let (anchors, properties) := define anchors properties
      goOn anchors (.sequenceStart properties)
    | .mappingStart properties =>
      let (anchors, properties) := define anchors properties
      goOn anchors (.mappingStart properties)
    | .sequenceEnd | .mappingEnd => goOn anchors .close

/-! ## §3 Trees -/

/-- A sequence or mapping that is not closed yet. -/
structure OpenContent where
  isMapping : Bool
  properties : Numbered
  /-- The nodes in it so far, the latest first. -/
  items : List Content

namespace OpenContent

/-- The finished node. -/
def close (level : OpenContent) : Content :=
  let items := level.items.reverse
  if level.isMapping then .mapping level.properties.anchor level.properties.tag items
  else .sequence level.properties.anchor level.properties.tag items

/-- Adds a node. -/
def add (content : Content) (level : OpenContent) : OpenContent :=
  { level with items := content :: level.items }

end OpenContent

namespace Content

/-- The root of a tree that ends with a node, inside sequences and mappings that are not
    closed, innermost first. -/
def enclose (content : Content) : List OpenContent → Content
  | [] => content
  | level :: outer => enclose (level.add content).close outer

/-- The tree of a list of parts, inside sequences and mappings that are not closed. -/
def ofParts : List OpenContent → List Part → Content
  | levels, [] => enclose .broken levels
  | levels, part :: rest =>
    let place (content : Content) (levels : List OpenContent) : Content :=
      match levels with
      | [] => content
      | level :: outer => ofParts (level.add content :: outer) rest
    match part with
    | .alias anchor => place (.alias anchor) levels
    | .scalar properties text isPlain =>
      place (.scalar properties.anchor properties.tag text isPlain) levels
    | .sequenceStart properties => ofParts (⟨false, properties, []⟩ :: levels) rest
    | .mappingStart properties => ofParts (⟨true, properties, []⟩ :: levels) rest
    | .close =>
      match levels with
      | [] => .broken
      | level :: outer => place level.close outer

end Content

/-! ## §4 Documents -/

/-- A document. -/
structure Document where
  root : Content
  /-- The nodes with anchors, in the order in which they begin. -/
  anchors : List (Nat × Content)
  /-- The number of events it was made from. -/
  size : Nat
  /-- Whether the text is accepted as a whole and has no other document. -/
  isAlone : Bool

namespace Document

/-- The node that an alias refers to: the last one to begin with the anchor. -/
def target? (document : Document) (anchor : Nat) : Option Content :=
  (document.anchors.reverse.lookup anchor)

/-- The document of a text, as far as the text is accepted. -/
def ofText (text : List Char) : Document :=
  let first := firstDocument (tokens text)
  match first.events with
  | none => ⟨.void, [], 1, first.isAlone⟩
  | some events =>
    let (parts, isWhole) := number [] events
    let root := Content.ofParts [] parts
    ⟨root, root.anchored, parts.length, first.isAlone && isWhole⟩

end Document

end Outline.Yaml
