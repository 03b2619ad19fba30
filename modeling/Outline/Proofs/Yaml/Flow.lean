import Outline.Json.Printer
import Outline.Yaml.Document

/-!
# Documents in flow style

A value in flow style is written with brackets, braces and quotes only, so that its structure
does not depend on indentation. Printed descriptions are of this form. Here such values are
followed from their tokens to the document that is made from them.

- `FlowValue` — values in flow style, with their text, tokens, events and content
- `FlowValue.run_tokens` — the events of a value
- `FlowValue.compose_events` — the content that is made from events
- `FlowValue.ofText_of_tokens` — the document of the tokens of a mapping
-/

namespace Outline.Yaml

open Json (newLine)

/-! ## §1 Values -/

/-- A value in flow style: a quoted text, a plain integer, or a collection of values. -/
inductive FlowValue where
  | text (content : String)
  | integer (value : Int)
  | sequence (items : List FlowValue)
  /-- A mapping; keys are quoted. -/
  | mapping (members : List (String × FlowValue))

/-- What stands in front of a part of a collection: nothing, or one mark behind other parts. -/
def separator {α : Type} (isFirst : Bool) (mark : α) : List α := if isFirst then [] else [mark]

namespace FlowValue

mutual
/-- The text of a value whose brackets or braces stand at a level. -/
def print (level : Nat) : FlowValue → List Char
  | text content => Json.string content
  | integer value => (toString value).toList
  | sequence items => '[' :: (printItems true (level + 1) items ++ (newLine level ++ [']']))
  | mapping members => '{' :: (printMembers true (level + 1) members ++ (newLine level ++ ['}']))

/-- The text of items at a level. -/
def printItems (isFirst : Bool) (level : Nat) : List FlowValue → List Char
  | [] => []
  | item :: rest =>
    separator isFirst ',' ++ (newLine level ++ (item.print level ++ printItems false level rest))

/-- The text of members at a level. -/
def printMembers (isFirst : Bool) (level : Nat) : List (String × FlowValue) → List Char
  | [] => []
  | (key, value) :: rest =>
    separator isFirst ',' ++ (newLine level ++ (Json.key key ++
      (value.print level ++ printMembers false level rest)))
end

mutual
/-- The tokens of a value. -/
def tokens : FlowValue → List Token
  | text content => [.scalar content false]
  | integer value => [.scalar (toString value) true]
  | sequence items => .flowSequenceStart :: (itemTokens true items ++ [.flowSequenceEnd])
  | mapping members => .flowMappingStart :: (memberTokens true members ++ [.flowMappingEnd])

/-- The tokens of items. -/
def itemTokens (isFirst : Bool) : List FlowValue → List Token
  | [] => []
  | item :: rest => separator isFirst .flowEntry ++ (item.tokens ++ itemTokens false rest)

/-- The tokens of members. -/
def memberTokens (isFirst : Bool) : List (String × FlowValue) → List Token
  | [] => []
  | (key, value) :: rest =>
    separator isFirst .flowEntry ++ (.key :: .scalar key false :: .value ::
      (value.tokens ++ memberTokens false rest))
end

mutual
/-- The events of a value. -/
def events : FlowValue → List Event
  | text content => [.scalar {} content false]
  | integer value => [.scalar {} (toString value) true]
  | sequence items => .sequenceStart {} :: (itemEvents items ++ [.sequenceEnd])
  | mapping members => .mappingStart {} :: (memberEvents members ++ [.mappingEnd])

/-- The events of items. -/
def itemEvents : List FlowValue → List Event
  | [] => []
  | item :: rest => item.events ++ itemEvents rest

/-- The events of members. -/
def memberEvents : List (String × FlowValue) → List Event
  | [] => []
  | (key, value) :: rest => .scalar {} key false :: (value.events ++ memberEvents rest)
end

mutual
/-- The node that a value is in a document. -/
def content : FlowValue → Content
  | text content => .scalar none none content false
  | integer value => .scalar none none (toString value) true
  | sequence items => .sequence none none (itemContents items)
  | mapping members => .mapping none none (memberContents members)

/-- The nodes of items. -/
def itemContents : List FlowValue → List Content
  | [] => []
  | item :: rest => item.content :: itemContents rest

/-- The nodes of members, keys and values in turn. -/
def memberContents : List (String × FlowValue) → List Content
  | [] => []
  | (key, value) :: rest => .scalar none none key false :: value.content :: memberContents rest
end

/-- Members behind others have a comma in front of each. -/
theorem printMembers_append (level : Nat) (isFirst : Bool) (first : String × FlowValue)
    (members others : List (String × FlowValue)) :
    printMembers isFirst level (first :: members ++ others) =
      printMembers isFirst level (first :: members) ++
        printMembers false level others := by
  induction members generalizing first isFirst with
  | nil => simp [printMembers]
  | cons second rest ih =>
    have hRest := ih false second
    rw [List.cons_append] at hRest ⊢
    rw [List.cons_append, printMembers, hRest]
    simp [printMembers]

theorem memberContents_append (members others : List (String × FlowValue)) :
    memberContents (members ++ others) =
      memberContents members ++ memberContents others := by
  induction members with
  | nil => rfl
  | cons member more ih => simp [memberContents, ih]

end FlowValue

/-! ## §2 Events -/

/-- The result of a run with earlier events in front. -/
def preceded (events : List Event) (result : List Event × Option (List Token)) :
    List Event × Option (List Token) :=
  (events ++ result.1, result.2)

@[simp] theorem preceded_preceded (events more : List Event)
    (result : List Event × Option (List Token)) :
    preceded events (preceded more result) = preceded (events ++ more) result := by
  simp [preceded]

/-- A token that is used adds its events and replaces the frame. -/
theorem run_of_used {handles : Handles} {frame : Frame} {token : Token} {events : List Event}
    {frames : List Frame} (h : frame.step handles token = .used events frames)
    (below : List Frame) (rest : List Token) :
    run handles (frame :: below) (token :: rest) =
      preceded events (run handles (frames ++ below) rest) := by
  simp [run, feed, h, preceded]

/-- A frame that expects a node, and gives way to `back` behind it. -/
structure Frame.ExpectsNode (handles : Handles) (frame : Frame) (back : List Frame) : Prop where
  scalar : ∀ text isPlain,
    frame.step handles (.scalar text isPlain) = .used [.scalar {} text isPlain] back
  sequence : frame.step handles .flowSequenceStart =
    .used [.sequenceStart {}] (.flowSequenceFirst :: back)
  mapping : frame.step handles .flowMappingStart =
    .used [.mappingStart {}] (.flowMappingFirst :: back)

namespace FlowValue

variable {handles : Handles}

theorem expectsNode_root : Frame.ExpectsNode handles (.node true false none none) [] :=
  ⟨fun _ _ => rfl, rfl, rfl⟩

theorem expectsNode_value : Frame.ExpectsNode handles .flowValue [.flowMapping] :=
  ⟨fun _ _ => rfl, rfl, rfl⟩

theorem expectsNode_item (isFirst : Bool) :
    Frame.ExpectsNode handles (if isFirst then .flowSequenceFirst else .flowItem)
      [.flowSequence] := by
  cases isFirst <;> exact ⟨fun _ _ => rfl, rfl, rfl⟩

/-- A comma leads from behind a part of a collection to the next part. -/
theorem run_separator {first behind next : Frame}
    (h : behind.step handles .flowEntry = .used [] [next]) (isFirst : Bool) (below : List Frame)
    (rest : List Token) :
    run handles ((if isFirst then first else behind) :: below)
        (separator isFirst .flowEntry ++ rest) =
      run handles ((if isFirst then first else next) :: below) rest := by
  cases isFirst with
  | true => rfl
  | false => exact run_of_used h below rest

mutual
/-- The tokens of a value make its events, wherever a node is expected. -/
theorem run_tokens {frame : Frame} {back : List Frame} (h : frame.ExpectsNode handles back)
    (below : List Frame) (rest : List Token) : (value : FlowValue) →
    run handles (frame :: below) (value.tokens ++ rest) =
      preceded value.events (run handles (back ++ below) rest)
  | text content => run_of_used (h.scalar content false) below rest
  | integer value => run_of_used (h.scalar (toString value) true) below rest
  | sequence items => by
    have hItems := run_itemTokens true (back ++ below) rest items
    rw [if_pos rfl] at hItems
    rw [tokens, List.cons_append, List.append_assoc, run_of_used h.sequence, List.cons_append,
      List.singleton_append, hItems, preceded_preceded, events]
    rfl
  | mapping members => by
    have hMembers := run_memberTokens true (back ++ below) rest members
    rw [if_pos rfl] at hMembers
    rw [tokens, List.cons_append, List.append_assoc, run_of_used h.mapping, List.cons_append,
      List.singleton_append, hMembers, preceded_preceded, events]
    rfl

/-- The tokens of items make their events, up to the end of the sequence. -/
theorem run_itemTokens (isFirst : Bool) (below : List Frame) (rest : List Token) :
    (items : List FlowValue) →
    run handles ((if isFirst then .flowSequenceFirst else .flowSequence) :: below)
        (itemTokens isFirst items ++ .flowSequenceEnd :: rest) =
      preceded (itemEvents items ++ [.sequenceEnd]) (run handles below rest)
  | [] => by cases isFirst <;> rfl
  | item :: others => by
    have hMore := run_itemTokens false below rest others
    rw [itemTokens, List.append_assoc, List.append_assoc, run_separator rfl,
      run_tokens (expectsNode_item isFirst), itemEvents, List.append_assoc, ← preceded_preceded,
      ← hMore]
    rfl

/-- The tokens of members make their events, up to the end of the mapping. -/
theorem run_memberTokens (isFirst : Bool) (below : List Frame) (rest : List Token) :
    (members : List (String × FlowValue)) →
    run handles ((if isFirst then .flowMappingFirst else .flowMapping) :: below)
        (memberTokens isFirst members ++ .flowMappingEnd :: rest) =
      preceded (memberEvents members ++ [.mappingEnd]) (run handles below rest)
  | [] => by cases isFirst <;> rfl
  | (key, value) :: others => by
    have hKey : (if isFirst then Frame.flowMappingFirst else .flowMember).step handles .key =
        .used [] [.flowKey] := by
      cases isFirst <;> rfl
    have hText : Frame.flowKey.step handles (.scalar key false) =
        .used [.scalar {} key false] [.flowValueMark] := rfl
    have hMark : Frame.flowValueMark.step handles .value = .used [] [.flowValue] := rfl
    have hNext : Frame.flowMapping.step handles .flowEntry = .used [] [.flowMember] := rfl
    have hMore := run_memberTokens false below rest others
    rw [if_neg Bool.false_ne_true] at hMore
    simp only [memberTokens, memberEvents, List.append_assoc, List.cons_append, run_separator hNext,
      run_of_used hKey, run_of_used hText, run_of_used hMark, List.nil_append,
      run_tokens expectsNode_value, hMore, preceded_preceded]
end

/-! ## §3 Contents -/

/-- The node that events make within open collections, and whether all of them count. -/
def compose (levels : List OpenContent) (events : List Event) : Content × Bool :=
  (Content.ofParts levels (number [] events).1, (number [] events).2)

mutual
/-- The events of a value add its content to the collection around it. -/
theorem compose_events (level : OpenContent) (outer : List OpenContent) (rest : List Event) :
    (value : FlowValue) →
    compose (level :: outer) (value.events ++ rest) =
      compose (level.add value.content :: outer) rest
  | text content => rfl
  | integer value => rfl
  | sequence items => by
    have hItems := compose_itemEvents ⟨false, ⟨none, none⟩, []⟩ (level :: outer)
      (.sequenceEnd :: rest) items
    rw [List.append_nil] at hItems
    simp only [events, content, List.append_assoc, List.cons_append, List.nil_append]
    calc compose (level :: outer) (.sequenceStart {} :: (itemEvents items ++ .sequenceEnd :: rest))
        = compose (⟨false, ⟨none, none⟩, []⟩ :: level :: outer)
            (itemEvents items ++ .sequenceEnd :: rest) := rfl
      _ = compose (⟨false, ⟨none, none⟩, (itemContents items).reverse⟩ :: level :: outer)
            (.sequenceEnd :: rest) := hItems
      _ = compose (level.add (.sequence none none (itemContents items).reverse.reverse) :: outer)
            rest := rfl
      _ = _ := by rw [List.reverse_reverse]
  | mapping members => by
    have hMembers := compose_memberEvents ⟨true, ⟨none, none⟩, []⟩ (level :: outer)
      (.mappingEnd :: rest) members
    rw [List.append_nil] at hMembers
    simp only [events, content, List.append_assoc, List.cons_append, List.nil_append]
    calc compose (level :: outer)
          (.mappingStart {} :: (memberEvents members ++ .mappingEnd :: rest))
        = compose (⟨true, ⟨none, none⟩, []⟩ :: level :: outer)
            (memberEvents members ++ .mappingEnd :: rest) := rfl
      _ = compose (⟨true, ⟨none, none⟩, (memberContents members).reverse⟩ :: level :: outer)
            (.mappingEnd :: rest) := hMembers
      _ = compose (level.add (.mapping none none (memberContents members).reverse.reverse) :: outer)
            rest := rfl
      _ = _ := by rw [List.reverse_reverse]

/-- The events of items add their contents, the latest first. -/
theorem compose_itemEvents (level : OpenContent) (outer : List OpenContent) (rest : List Event) :
    (items : List FlowValue) →
    compose (level :: outer) (itemEvents items ++ rest) =
      compose ({ level with items := (itemContents items).reverse ++ level.items } :: outer) rest
  | [] => rfl
  | item :: others => by
    rw [itemEvents, List.append_assoc, compose_events, compose_itemEvents]
    simp [itemContents, OpenContent.add]

/-- The events of members add their contents, the latest first. -/
theorem compose_memberEvents (level : OpenContent) (outer : List OpenContent)
    (rest : List Event) : (members : List (String × FlowValue)) →
    compose (level :: outer) (memberEvents members ++ rest) =
      compose ({ level with items := (memberContents members).reverse ++ level.items } :: outer)
        rest
  | [] => rfl
  | (key, value) :: others => by
    have hKey (rest : List Event) : compose (level :: outer) (.scalar {} key false :: rest) =
        compose (level.add (.scalar none none key false) :: outer) rest := rfl
    rw [memberEvents, List.cons_append, List.append_assoc, hKey, compose_events,
      compose_memberEvents]
    simp [memberContents, OpenContent.add]
end

/-! ## §4 Documents -/

/-- The events of a mapping alone make its content. -/
theorem compose_mapping (members : List (String × FlowValue)) :
    compose [] (mapping members).events = ((mapping members).content, true) := by
  have hMembers := compose_memberEvents ⟨true, ⟨none, none⟩, []⟩ [] [.mappingEnd] members
  rw [List.append_nil] at hMembers
  rw [events, content]
  calc compose [] (.mappingStart {} :: (memberEvents members ++ [.mappingEnd]))
      = compose [⟨true, ⟨none, none⟩, []⟩] (memberEvents members ++ [.mappingEnd]) := rfl
    _ = compose [⟨true, ⟨none, none⟩, (memberContents members).reverse⟩] [.mappingEnd] := hMembers
    _ = (.mapping none none (memberContents members).reverse.reverse, true) := rfl
    _ = _ := by rw [List.reverse_reverse]

/-- The tokens of a mapping alone are a document with its events. -/
theorem firstDocument_mapping (members : List (String × FlowValue)) :
    firstDocument (.streamStart :: ((mapping members).tokens ++ [.streamEnd])) =
      ⟨some (mapping members).events, true⟩ := by
  obtain ⟨body, hBody⟩ : ∃ body, (mapping members).tokens = .flowMappingStart :: body :=
    ⟨_, by rw [tokens]⟩
  have hRoot : firstDocument (.streamStart :: ((mapping members).tokens ++ [.streamEnd])) =
      documentFrom defaultHandles (.node true false none none)
        ((mapping members).tokens ++ [.streamEnd]) := by
    rw [hBody]
    rfl
  rw [hRoot, documentFrom, run_tokens expectsNode_root]
  simp [preceded, run, endsStream]

/-- A text with the tokens of a mapping holds just this mapping. -/
theorem ofText_of_tokens {source : List Char} {members : List (String × FlowValue)}
    (h : Yaml.tokens source = .streamStart :: ((mapping members).tokens ++ [.streamEnd])) :
    (Document.ofText source).root = (mapping members).content ∧
      (Document.ofText source).isAlone = true := by
  have hParts := compose_mapping members
  rw [compose, Prod.mk.injEq] at hParts
  simp [Document.ofText, h, firstDocument_mapping, hParts]

end FlowValue

end Outline.Yaml
