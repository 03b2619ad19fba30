import Outline.Proofs.Yaml.Scanning

/-!
# Scanning values in flow style

The scanner cuts the text of a value in flow style into the tokens of that value, provided that
its texts can be quoted and its keys are short.

- `FlowValue.Writable` — values whose texts and keys are of this kind
- `FlowValue.reaches_print` — a value within a collection
- `FlowValue.tokens_print` — all tokens of a text
-/

namespace Outline.Yaml

open Json (newLine)

/-! ## §1 Values -/

namespace FlowValue

mutual
/-- All texts of a value can be quoted, and its keys are short enough to be found. -/
def Writable : FlowValue → Prop
  | text content => Quotable content
  | integer _ => True
  | sequence items => WritableItems items
  | mapping members => WritableMembers members

/-- All items can be written. -/
def WritableItems : List FlowValue → Prop
  | [] => True
  | item :: rest => item.Writable ∧ WritableItems rest

/-- All members can be written. -/
def WritableMembers : List (String × FlowValue) → Prop
  | [] => True
  | (key, value) :: rest =>
    (Quotable key ∧ (Json.string key).length ≤ 1024) ∧ value.Writable ∧ WritableMembers rest
end

theorem writableMembers_append {members others : List (String × FlowValue)}
    (h : WritableMembers members) (hOthers : WritableMembers others) :
    WritableMembers (members ++ others) := by
  induction members with
  | nil => exact hOthers
  | cons member rest ih => exact ⟨h.1, h.2.1, ih h.2.2⟩

theorem endsPlain_newLine {mark : Char} (h : isFlowMark mark = true) (level : Nat)
    (rest : List Char) : EndsPlain (newLine level ++ mark :: rest) := by
  have hMark := isSpacing_of_not_isGap (isFlowMark_cases h).1
  refine ⟨mark, rest, ?_, h⟩
  rw [List.dropWhile_append_of_pos (isSpacing_newLine level),
    List.dropWhile_cons_of_neg (by simp [hMark])]

theorem endsPlain_items {after : List Char} (h : EndsPlain after) (level : Nat)
    (items : List FlowValue) : EndsPlain (printItems false level items ++ after) := by
  cases items with
  | nil => exact h
  | cons item rest => exact ⟨',', _, rfl, rfl⟩

theorem endsPlain_members {after : List Char} (h : EndsPlain after) (level : Nat)
    (members : List (String × FlowValue)) :
    EndsPlain (printMembers false level members ++ after) := by
  cases members with
  | nil => exact h
  | cons member rest => exact ⟨',', _, rfl, rfl⟩

section

variable {scanner : Scanner} {depth level : Nat} {tokens : List Token} {after : List Char}

/-- The text of a collection is cut into its tokens, if that of its parts is. -/
theorem reaches_collection {first last : Char} {start finish : Token} {inner : List Char}
    {innerTokens : List Token} {canKey : Bool}
    (hFirst : first = '[' ∧ start = .flowSequenceStart ∨ first = '{' ∧ start = .flowMappingStart)
    (hLast : last = ']' ∧ finish = .flowSequenceEnd ∨ last = '}' ∧ finish = .flowMappingEnd)
    (hInner : ∀ opened : Scanner,
      opened.At (depth + 1) (start :: tokens) true (inner ++ (newLine level ++ last :: after)) →
      ∃ next, opened.Reaches next ∧ next.At (depth + 1) (innerTokens.reverse ++ start :: tokens)
        false (newLine level ++ last :: after))
    (h : scanner.At depth tokens canKey
      (first :: (inner ++ (newLine level ++ [last])) ++ after)) :
    ∃ next, scanner.Reaches next ∧
      next.At depth ((start :: (innerTokens ++ [finish])).reverse ++ tokens) false after := by
  have hSource : first :: (inner ++ (newLine level ++ [last])) ++ after =
      first :: (inner ++ (newLine level ++ last :: after)) := by
    simp
  rw [hSource] at h
  obtain ⟨opened, hOpened, hInside⟩ := h.opening hFirst
  obtain ⟨passed, hPassed, hBehind⟩ := hInner opened hInside
  obtain ⟨next, hNext, hAt⟩ := hBehind.skip_newLine.closing hLast
  refine ⟨next, (hOpened.trans hPassed).trans hNext, ?_⟩
  simpa using hAt

end

mutual
/-- The text of a value is cut into its tokens, if a mark of its collection follows. -/
theorem reaches_print {scanner : Scanner} {depth level : Nat} {tokens : List Token} {canKey : Bool}
    {after : List Char} (hAfter : EndsPlain after) : (value : FlowValue) → value.Writable →
    scanner.At (depth + 1) tokens canKey (value.print level ++ after) →
    ∃ next, scanner.Reaches next ∧
      next.At (depth + 1) (value.tokens.reverse ++ tokens) false after
  | text content, hWritable, h => h.string hWritable
  | integer value, _, h => h.integer hAfter
  | sequence items, hWritable, h => by
    refine reaches_collection (.inl ⟨rfl, rfl⟩) (.inl ⟨rfl, rfl⟩) (fun opened hOpened => ?_) h
    exact reaches_printItems (endsPlain_newLine rfl level after) items hWritable hOpened
  | mapping members, hWritable, h => by
    refine reaches_collection (.inr ⟨rfl, rfl⟩) (.inr ⟨rfl, rfl⟩) (fun opened hOpened => ?_) h
    exact reaches_printMembers (endsPlain_newLine rfl level after) members hWritable hOpened

/-- The text of items is cut into their tokens. -/
theorem reaches_printItems {scanner : Scanner} {depth level : Nat} {tokens : List Token}
    {isFirst : Bool} {after : List Char} (hAfter : EndsPlain after) : (items : List FlowValue) →
    WritableItems items →
    scanner.At (depth + 1) tokens isFirst (printItems isFirst level items ++ after) →
    ∃ next, scanner.Reaches next ∧
      next.At (depth + 1) ((itemTokens isFirst items).reverse ++ tokens) false after
  | [], _, h => ⟨scanner, .refl scanner, h.weaken⟩
  | item :: rest, ⟨hItem, hRest⟩, h => by
    rw [printItems, List.append_assoc] at h
    obtain ⟨started, hStarted, hAt⟩ := h.separator
    rw [List.append_assoc, List.append_assoc] at hAt
    obtain ⟨passed, hPassed, hBehind⟩ :=
      reaches_print (endsPlain_items hAfter level rest) item hItem hAt.skip_newLine
    obtain ⟨next, hNext, hLast⟩ := reaches_printItems hAfter rest hRest hBehind
    refine ⟨next, (hStarted.trans hPassed).trans hNext, ?_⟩
    simpa [itemTokens] using hLast

/-- The text of members is cut into their tokens. -/
theorem reaches_printMembers {scanner : Scanner} {depth level : Nat} {tokens : List Token}
    {isFirst : Bool} {after : List Char} (hAfter : EndsPlain after) :
    (members : List (String × FlowValue)) → WritableMembers members →
    scanner.At (depth + 1) tokens isFirst (printMembers isFirst level members ++ after) →
    ∃ next, scanner.Reaches next ∧
      next.At (depth + 1) ((memberTokens isFirst members).reverse ++ tokens) false after
  | [], _, h => ⟨scanner, .refl scanner, h.weaken⟩
  | (key, value) :: rest, ⟨⟨hKey, hShort⟩, hValue, hRest⟩, h => by
    -- behind the brace or a comma a key may begin, which is what the flag of the state says
    rw [printMembers, List.append_assoc] at h
    obtain ⟨started, hStarted, hAt⟩ := h.separator
    rw [List.append_assoc, List.append_assoc, List.append_assoc] at hAt
    obtain ⟨marked, hMarked, hValueAt⟩ := hAt.skip_newLine.memberKey hKey hShort
    obtain ⟨passed, hPassed, hBehind⟩ :=
      reaches_print (endsPlain_members hAfter level rest) value hValue hValueAt
    obtain ⟨next, hNext, hLast⟩ := reaches_printMembers hAfter rest hRest hBehind
    refine ⟨next, ((hStarted.trans hMarked).trans hPassed).trans hNext, ?_⟩
    simpa [memberTokens] using hLast
end

/-! ## §2 Texts -/

/-- The characters around scalars are allowed. -/
theorem isAllowed_newLine {level : Nat} {c : Char} (h : c ∈ newLine level) :
    isAllowed c = true := by
  have hSpacing := isSpacing_newLine level c h
  simp only [isSpacing, Bool.or_eq_true, beq_iff_eq] at hSpacing
  rcases hSpacing with rfl | rfl <;> rfl

theorem isAllowed_key {name : String} (h : Quotable name) {c : Char} (hc : c ∈ Json.key name) :
    isAllowed c = true := by
  rcases List.mem_append.mp hc with hc | hc
  · exact (allowed_of_mem_string h hc).1
  · simp only [List.mem_cons, List.not_mem_nil, or_false] at hc
    rcases hc with rfl | rfl <;> rfl

theorem isAllowed_separator {isFirst : Bool} {c : Char} (h : c ∈ separator isFirst ',') :
    isAllowed c = true := by
  cases isFirst with
  | true => cases h
  | false =>
    obtain rfl := List.mem_singleton.mp h
    rfl

mutual
/-- The text of a value is allowed. -/
theorem isAllowed_print {level : Nat} {c : Char} : (value : FlowValue) → value.Writable →
    c ∈ value.print level → isAllowed c = true
  | text content, hWritable, hc => (allowed_of_mem_string hWritable hc).1
  | integer value, _, hc => by
    have hChars : integerChars.all isAllowed = true := by decide
    exact List.all_eq_true.mp hChars c (mem_integerChars hc)
  | sequence items, hWritable, hc => by
    simp only [print, List.mem_cons, List.mem_append, List.not_mem_nil, or_false] at hc
    rcases hc with rfl | hc | hc | rfl
    · rfl
    · exact isAllowed_printItems items hWritable hc
    · exact isAllowed_newLine hc
    · rfl
  | mapping members, hWritable, hc => by
    simp only [print, List.mem_cons, List.mem_append, List.not_mem_nil, or_false] at hc
    rcases hc with rfl | hc | hc | rfl
    · rfl
    · exact isAllowed_printMembers members hWritable hc
    · exact isAllowed_newLine hc
    · rfl

/-- The text of items is allowed. -/
theorem isAllowed_printItems {level : Nat} {isFirst : Bool} {c : Char} :
    (items : List FlowValue) → WritableItems items → c ∈ printItems isFirst level items →
    isAllowed c = true
  | item :: rest, ⟨hItem, hRest⟩, hc => by
    simp only [printItems, List.mem_append] at hc
    rcases hc with hc | hc | hc | hc
    · exact isAllowed_separator hc
    · exact isAllowed_newLine hc
    · exact isAllowed_print item hItem hc
    · exact isAllowed_printItems rest hRest hc

/-- The text of members is allowed. -/
theorem isAllowed_printMembers {level : Nat} {isFirst : Bool} {c : Char} :
    (members : List (String × FlowValue)) → WritableMembers members →
    c ∈ printMembers isFirst level members → isAllowed c = true
  | (key, value) :: rest, ⟨⟨hKey, _⟩, hValue, hRest⟩, hc => by
    simp only [printMembers, List.mem_append] at hc
    rcases hc with hc | hc | hc | hc | hc
    · exact isAllowed_separator hc
    · exact isAllowed_newLine hc
    · exact isAllowed_key hKey hc
    · exact isAllowed_print value hValue hc
    · exact isAllowed_printMembers rest hRest hc
end

/-- At the end of the text the last token is cut. -/
theorem run_at_end {scanner : Scanner} {tokens : List Token} {canKey : Bool}
    (h : scanner.At 0 tokens canKey []) (fuel : Nat) :
    Scanner.run (fuel + 1) scanner = (Token.streamEnd :: tokens).reverse := by
  obtain ⟨here, hHere, hCursor, -, hFetch⟩ := h.fetch (by rintro c ⟨⟩)
  have hRest : here.cursor.rest = [] := by rw [hCursor]; rfl
  let place := here.cursor.place
  let last := if place.column = 0 then place else ⟨place.index, place.line + 1, 0⟩
  have hLine : { here with cursor := ⟨[], last⟩ }.At 0 tokens canKey [] :=
    { hHere with text := rfl }
  obtain ⟨dropped, hDropped, hAt, -⟩ := hLine.dropKey
  have hHereEnd : here.fetchHere =
      { here with cursor := ⟨[], last⟩ }.unindented (some (.streamEnd, [])) := by
    rw [Scanner.fetchHere]
    simp only [hRest]
    rfl
  have hEnd : here.fetchHere = some ((dropped.allowKey false).take .streamEnd []) := by
    rw [hHereEnd, Scanner.unindented, hLine.unroll_eq (Int.le_refl _), hDropped]
    rfl
  obtain ⟨next, hNext, hNextAt, -⟩ := ((hAt.allowKey false).take .streamEnd []).dropOutdated
  have hStep : scanner.fetch = some next := by
    rw [hFetch, hEnd]
    exact hNext
  rw [Scanner.run, hStep]
  simp [hNextAt.tokens]

/-- The text of a mapping is cut into its tokens. -/
theorem tokens_print {members : List (String × FlowValue)} (h : WritableMembers members)
    (level : Nat) :
    Yaml.tokens ((mapping members).print level) =
      .streamStart :: ((mapping members).tokens ++ [.streamEnd]) := by
  have hAllowed : ((mapping members).print level).all isAllowed = true :=
    List.all_eq_true.mpr fun c hc => isAllowed_print (mapping members) h hc
  let start : Scanner := { cursor := ⟨(mapping members).print level, {}⟩ }
  have hStart : start.At 0 [.streamStart] true ((mapping members).print level ++ []) :=
    ⟨by simp [start], rfl, rfl, by simp [start], rfl, fun _ => rfl⟩
  obtain ⟨last, ⟨steps, hLength, hRun⟩, hLast⟩ :=
    reaches_collection (.inr ⟨rfl, rfl⟩) (.inr ⟨rfl, rfl⟩)
      (fun opened hOpened =>
        reaches_printMembers (endsPlain_newLine rfl level []) members h hOpened)
      hStart
  have hTokens : Yaml.tokens ((mapping members).print level) =
      Scanner.run (((mapping members).print level).length + 1) start := by
    obtain ⟨rest, hCons⟩ : ∃ rest, (mapping members).print level = '{' :: rest := ⟨_, by rw [print]⟩
    have hMark : isByteOrderMark '{' = false := by decide
    simp only [start, hCons] at hAllowed ⊢
    simp [Yaml.tokens, hMark, hAllowed]
  -- no step is without a character, so the fuel lasts for all of them and for the end
  have hFuel : ((mapping members).print level).length + 1 =
      steps + (((mapping members).print level).length - steps + 1) := by
    have hSteps : steps ≤ ((mapping members).print level).length := by
      exact Nat.le_trans (Nat.le_add_left _ _) hLength
    omega
  rw [hTokens, hFuel, hRun, run_at_end hLast]
  simp [FlowValue.tokens]

end FlowValue

end Outline.Yaml
