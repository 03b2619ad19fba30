import Mathlib.Data.List.DropRight
import Outline.Proofs.Yaml.Flow
import Outline.Proofs.Yaml.Scalar

/-!
# Scanning flow collections

How the scanner cuts single tokens in printed text. Inside flow collections indentation does
not matter, and no key is ever required, so that a key slot that is out of date does no harm.
What has to be kept track of is where a key may begin: the mark of a key is inserted only when
the colon behind it turns up.

- `Scanner.At` — where the scanner stands, and what it has cut
- `Scanner.Reaches` — a scanner that gets from one state to another
- `Scanner.At.step` — one token
- `Scanner.At.opening`, `Scanner.At.closing`, `Scanner.At.comma` — the marks of collections
- `Scanner.At.string`, `Scanner.At.integer`, `Scanner.At.memberKey` — scalars and keys
-/

namespace Outline.Yaml

open Json (newLine)

theorem isSpacing_newLine (level : Nat) : ∀ c ∈ newLine level, isSpacing c = true := by
  intro c hc
  simp only [newLine, List.mem_cons, List.mem_replicate] at hc
  rcases hc with rfl | ⟨-, rfl⟩ <;> rfl

/-- A slot after it has been looked at from a place. -/
def KeySlot.seenFrom (place : Place) (slot : KeySlot) : KeySlot :=
  if Scanner.isOutdated place slot then { slot with isPossible := false } else slot

namespace Scanner

variable {scanner : Scanner} {depth : Nat} {tokens : List Token} {canKey : Bool} {text : List Char}

/-! ## §1 States -/

/-- The scanner stands before a text, spacing apart, inside so many flow collections and no
    block collection, and has cut some tokens, the latest first. If `canKey` is set, a key may
    begin here. -/
structure At (scanner : Scanner) (depth : Nat) (tokens : List Token) (canKey : Bool)
    (text : List Char) : Prop where
  text : scanner.cursor.rest.dropWhile isSpacing = text.dropWhile isSpacing
  indent : scanner.indent = -1
  depth : scanner.keys.length = depth + 1
  free : ∀ slot ∈ scanner.keys, slot.isRequired = false
  tokens : scanner.tokens = tokens
  keyable : canKey = true → scanner.keyAllowed = true

/-- The innermost collection holds a slot that is not out of date. -/
structure Holds (scanner : Scanner) (slot : KeySlot) : Prop where
  innermost : scanner.keys.head? = some slot
  current : isOutdated scanner.cursor.place slot = false

namespace At

theorem weaken (h : scanner.At depth tokens canKey text) : scanner.At depth tokens false text :=
  { h with keyable := fun hKey => absurd hKey Bool.false_ne_true }

theorem length_le (h : scanner.At depth tokens canKey text) :
    (text.dropWhile isSpacing).length ≤ scanner.cursor.rest.length := by
  rw [← h.text]
  exact (List.dropWhile_sublist _).length_le

/-- Spacing in front of a text does not matter. -/
theorem skip_newLine {level : Nat} (h : scanner.At depth tokens canKey (newLine level ++ text)) :
    scanner.At depth tokens canKey text := by
  refine { h with text := ?_ }
  rw [h.text, List.dropWhile_append_of_pos (isSpacing_newLine level)]

/-- A token is cut, and the scanner goes on behind it. -/
theorem take (h : scanner.At depth tokens canKey text) (token : Token) (rest : List Char) :
    (scanner.take token rest).At depth (token :: tokens) canKey rest :=
  ⟨rfl, h.indent, h.depth, h.free, congrArg (token :: ·) h.tokens, h.keyable⟩

theorem allowKey (h : scanner.At depth tokens canKey text) (allowed : Bool) :
    (scanner.allowKey allowed).At depth tokens allowed text :=
  ⟨h.text, h.indent, h.depth, h.free, h.tokens, id⟩

theorem inFlow (h : scanner.At (depth + 1) tokens canKey text) : scanner.inFlow = true := by
  simp [Scanner.inFlow, h.depth]

/-- Without block collections none is closed. -/
theorem unroll_eq (h : scanner.At depth tokens canKey text) {column : Int} (hColumn : -1 ≤ column) :
    scanner.unroll column = scanner := by
  rw [unroll]
  split
  · rfl
  · have hIndent : scanner.indent ≤ column := by rw [h.indent]; exact hColumn
    rw [closeBlocks.eq_def, if_pos hIndent]

/-! ## §2 Keys without a mark -/

/-- Slots of keys that are not required can always be given up. -/
theorem dropOutdated_eq (h : scanner.At depth tokens canKey text) :
    scanner.dropOutdated = some { scanner with
      keys := scanner.keys.map (KeySlot.seenFrom scanner.cursor.place) } := by
  have hAny : scanner.keys.any
      (fun slot => isOutdated scanner.cursor.place slot && slot.isRequired) = false := by
    rw [List.any_eq_false]
    intro slot hSlot
    simp [h.free slot hSlot]
  simp only [Scanner.dropOutdated, hAny, Bool.false_eq_true, if_false]
  rfl

/-- Giving up keys that are out of date changes nothing else. -/
theorem dropOutdated (h : scanner.At depth tokens canKey text) :
    ∃ next, scanner.dropOutdated = some next ∧ next.At depth tokens canKey text ∧
      next.cursor = scanner.cursor ∧ ∀ slot, scanner.Holds slot → next.Holds slot := by
  refine ⟨_, h.dropOutdated_eq, ⟨h.text, h.indent, by simpa using h.depth, ?_, h.tokens, h.keyable⟩,
    rfl, ?_⟩
  · intro slot hSlot
    obtain ⟨old, hOld, rfl⟩ := List.mem_map.mp hSlot
    unfold KeySlot.seenFrom
    split <;> exact h.free old hOld
  · rintro slot ⟨hSlot, hCurrent⟩
    refine ⟨?_, hCurrent⟩
    simp [hSlot, KeySlot.seenFrom, hCurrent]

theorem keys_eq_cons (h : scanner.At depth tokens canKey text) :
    ∃ slot outer, scanner.keys = slot :: outer ∧ outer.length = depth ∧
      slot.isRequired = false ∧ ∀ slot ∈ outer, slot.isRequired = false := by
  have hDepth := h.depth
  have hFree := h.free
  cases hKeys : scanner.keys with
  | nil =>
    rw [hKeys] at hDepth
    cases hDepth
  | cons slot outer =>
    rw [hKeys, List.length_cons] at hDepth
    rw [hKeys, List.forall_mem_cons] at hFree
    exact ⟨slot, outer, rfl, Nat.succ.inj hDepth, hFree.1, hFree.2⟩

/-- The slot of the innermost collection can be replaced by another that is not required. -/
theorem withSlot (h : scanner.At depth tokens canKey text) (slot : KeySlot) {outer : List KeySlot}
    (hSlot : slot.isRequired = false) (hLength : outer.length = depth)
    (hOuter : ∀ slot ∈ outer, slot.isRequired = false) :
    { scanner with keys := slot :: outer }.At depth tokens canKey text :=
  ⟨h.text, h.indent, congrArg (· + 1) hLength, List.forall_mem_cons.mpr ⟨hSlot, hOuter⟩, h.tokens,
    h.keyable⟩

/-- The key of the innermost collection can always be given up. -/
theorem dropKey (h : scanner.At depth tokens canKey text) :
    ∃ next, scanner.dropKey = some next ∧ next.At depth tokens canKey text ∧
      next.cursor = scanner.cursor := by
  obtain ⟨slot, outer, hKeys, hLength, hSlot, hOuter⟩ := h.keys_eq_cons
  refine ⟨_, ?_, h.withSlot { slot with isPossible := false } hSlot hLength hOuter, rfl⟩
  simp [Scanner.dropKey, hKeys, hSlot]

/-- A key that may begin here is remembered. -/
theorem saveKey (h : scanner.At depth tokens canKey text) :
    ∃ next, scanner.saveKey = some next ∧ next.At depth tokens canKey text ∧
      next.cursor = scanner.cursor ∧
      (canKey = true → ∃ outer,
        next.keys = ⟨true, false, tokens.length, scanner.cursor.place⟩ :: outer) := by
  by_cases hAllowed : scanner.keyAllowed = true
  · obtain ⟨slot, outer, hKeys, hLength, hSlot, hOuter⟩ := h.keys_eq_cons
    let saved : KeySlot := ⟨true, false, tokens.length, scanner.cursor.place⟩
    refine ⟨{ scanner with keys := saved :: outer }, ?_, h.withSlot saved rfl hLength hOuter, rfl,
      fun _ => ⟨outer, rfl⟩⟩
    have hIndent : ¬(-1 : Int) = scanner.cursor.place.column := by omega
    simp [Scanner.saveKey, hAllowed, Scanner.dropKey, hKeys, hSlot, saved, h.tokens, h.indent,
      column, hIndent]
  · refine ⟨scanner, ?_, h, rfl, fun hKey => absurd (h.keyable hKey) hAllowed⟩
    rw [Scanner.saveKey, if_neg hAllowed]

end At

/-! ## §3 Gaps -/

/-- A character that begins a token: neither a gap nor a comment nor a byte order mark. -/
structure BeginsToken (c : Char) : Prop where
  gap : isGap c = false
  comment : c ≠ '#'
  mark : isByteOrderMark c = false

/-- No spacing stands before a token that begins here. -/
theorem BeginsToken.dropWhile {c : Char} (h : BeginsToken c) (rest : List Char) :
    (c :: rest).dropWhile isSpacing = c :: rest := by
  have hSpacing := isSpacing_of_not_isGap h.gap
  exact List.dropWhile_cons_of_neg (by simp [hSpacing])

/-- Spacing before a token is skipped. -/
theorem skipGap_snd (inFlow allowed : Bool) {source : List Char}
    (h : ∀ c ∈ (source.dropWhile isSpacing).head?, BeginsToken c) :
    (skipGap inFlow false allowed source).2 = source.dropWhile isSpacing := by
  induction source generalizing allowed with
  | nil => rfl
  | cons c rest ih =>
    rw [skipGap.eq_def]
    by_cases hBlank : c = ' '
    · subst hBlank
      simpa [isBreak, List.dropWhile_cons, isSpacing] using ih allowed h
    by_cases hBreak : c = '\n'
    · subst hBreak
      simpa [isBreak, List.dropWhile_cons, isSpacing] using ih (allowed || !inFlow) h
    · have hSolid : isSpacing c = false := by simp [isSpacing, hBlank, hBreak]
      rw [List.dropWhile_cons, hSolid] at h
      obtain ⟨hGap, hComment, -⟩ := h c rfl
      simp only [isGap, isBlank, Bool.or_eq_false_iff, beq_eq_false_iff_ne] at hGap
      simp [hGap, hComment, hSolid]

/-- Where a key may begin, one may begin behind a gap. -/
theorem skipGap_fst (inFlow inComment : Bool) (source : List Char) :
    (skipGap inFlow inComment true source).1 = true := by
  induction source generalizing inComment with
  | nil => rfl
  | cons c rest ih =>
    rw [skipGap.eq_def]
    simp only [Bool.true_or]
    split
    · exact ih false
    split
    · exact ih inComment
    split
    · exact ih false
    split
    · exact ih true
    · rfl

/-- No byte order mark stands before a token. -/
theorem isByteOrderMark_of_beginsToken {c : Char} {rest : List Char}
    (h : ∀ d ∈ ((c :: rest).dropWhile isSpacing).head?, BeginsToken d) :
    isByteOrderMark c = false := by
  by_cases hSpacing : isSpacing c = true
  · simp only [isSpacing, Bool.or_eq_true, beq_iff_eq] at hSpacing
    rcases hSpacing with rfl | rfl <;> rfl
  · rw [List.dropWhile_cons_of_neg hSpacing] at h
    exact (h c rfl).mark

/-- The scanner moves on to the next token. -/
theorem At.toNextToken (h : scanner.At depth tokens canKey text)
    (hBegins : ∀ c ∈ (text.dropWhile isSpacing).head?, BeginsToken c) :
    scanner.toNextToken.At depth tokens canKey (text.dropWhile isSpacing) ∧
      scanner.toNextToken.cursor = scanner.cursor.moveTo (text.dropWhile isSpacing) ∧
      scanner.toNextToken.keys = scanner.keys := by
  rw [← h.text] at hBegins ⊢
  have hEqual : scanner.toNextToken =
      (scanner.moveTo
        (skipGap scanner.inFlow false scanner.keyAllowed scanner.cursor.rest).2).allowKey
        (skipGap scanner.inFlow false scanner.keyAllowed scanner.cursor.rest).1 := by
    rw [Scanner.toNextToken]
    cases hRest : scanner.cursor.rest with
    | nil => rfl
    | cons c rest =>
      rw [hRest] at hBegins
      simp [isByteOrderMark_of_beginsToken hBegins]
  rw [hEqual, skipGap_snd _ _ hBegins]
  refine ⟨⟨rfl, h.indent, h.depth, h.free, h.tokens, fun hKey => ?_⟩, rfl, rfl⟩
  rw [h.keyable hKey]
  exact skipGap_fst _ _ _

/-! ## §4 Steps -/

/-- A scanner that cuts some tokens, each of which uses up a character, gets to another state. -/
def Reaches (scanner next : Scanner) : Prop :=
  ∃ steps, next.cursor.rest.length + steps ≤ scanner.cursor.rest.length ∧
    ∀ fuel, run (steps + fuel) scanner = run fuel next

theorem Reaches.refl (scanner : Scanner) : scanner.Reaches scanner :=
  ⟨0, Nat.le_refl _, fun fuel => by rw [Nat.zero_add]⟩

theorem Reaches.trans {middle next : Scanner} (h : scanner.Reaches middle)
    (hNext : middle.Reaches next) : scanner.Reaches next := by
  obtain ⟨steps, hLength, hRun⟩ := h
  obtain ⟨more, hMore, hLast⟩ := hNext
  refine ⟨steps + more, by omega, fun fuel => ?_⟩
  rw [Nat.add_assoc, hRun, hLast]

/-- The next token is cut where the scanner stands behind the gap. -/
theorem At.fetch (h : scanner.At depth tokens canKey text)
    (hBegins : ∀ c ∈ (text.dropWhile isSpacing).head?, BeginsToken c) :
    ∃ here : Scanner, here.At depth tokens canKey (text.dropWhile isSpacing) ∧
      here.cursor = scanner.cursor.moveTo (text.dropWhile isSpacing) ∧
      (∀ slot, { scanner with cursor := here.cursor }.Holds slot → here.Holds slot) ∧
      scanner.fetch = here.fetchHere >>= Scanner.dropOutdated := by
  obtain ⟨hMoved, hCursor, hKeys⟩ := h.toNextToken hBegins
  obtain ⟨here, hHere, hAt, hSame, hHolds⟩ := hMoved.dropOutdated
  refine ⟨here, hAt, hSame.trans hCursor, ?_, ?_⟩
  · rintro slot ⟨hSlot, hCurrent⟩
    exact hHolds slot ⟨by rw [hKeys]; exact hSlot, by rw [← hSame]; exact hCurrent⟩
  · have hColumn : (-1 : Int) ≤ here.column := by omega
    simp only [Scanner.fetch, hHere, Option.bind_eq_bind, Option.bind_some, hAt.unroll_eq hColumn]

/-- Cutting a token leads to the state behind it. -/
theorem reaches_of_fetchHere {here found : Scanner} {token : Token}
    (hFetch : scanner.fetch = here.fetchHere >>= Scanner.dropOutdated)
    (hHere : here.fetchHere = some found)
    (hFound : found.At depth (token :: tokens) canKey text) (hToken : token ≠ .streamEnd)
    (hLess : found.cursor.rest.length < scanner.cursor.rest.length) :
    ∃ next, scanner.Reaches next ∧ next.At depth (token :: tokens) canKey text ∧
      next.cursor = found.cursor ∧ ∀ slot, found.Holds slot → next.Holds slot := by
  obtain ⟨next, hNext, hAt, hCursor, hHolds⟩ := hFound.dropOutdated
  refine ⟨next, ⟨1, by rw [hCursor]; omega, fun fuel => ?_⟩, hAt, hCursor, hHolds⟩
  have hStep : scanner.fetch = some next := by
    rw [hFetch, hHere]
    exact hNext
  rw [Nat.add_comm, run, hStep]
  simp [hAt.tokens, hToken]

/-- The token that begins here is cut. -/
theorem At.step {c : Char} {rest : List Char} (h : scanner.At depth tokens canKey (c :: rest))
    (hBegins : BeginsToken c) {depth' : Nat} {token : Token} {tokens' : List Token}
    {canKey' : Bool} {text' : List Char} (hToken : token ≠ .streamEnd)
    (hNext : ∀ here : Scanner, here.At depth tokens canKey (c :: rest) →
      here.cursor.rest = c :: rest → ∃ found, here.fetchHere = some found ∧
        found.At depth' (token :: tokens') canKey' text' ∧
        found.cursor.rest.length ≤ rest.length) :
    ∃ next, scanner.Reaches next ∧ next.At depth' (token :: tokens') canKey' text' := by
  have hDrop := hBegins.dropWhile rest
  have hHead : ∀ d ∈ ((c :: rest).dropWhile isSpacing).head?, BeginsToken d := by
    rw [hDrop]
    rintro d ⟨⟩
    exact hBegins
  obtain ⟨here, hHere, hCursor, -, hFetch⟩ := h.fetch hHead
  rw [hDrop] at hHere hCursor
  obtain ⟨found, hFound, hAt, hLess⟩ := hNext here hHere (by rw [hCursor]; rfl)
  have hLength := h.length_le
  rw [hDrop, List.length_cons] at hLength
  obtain ⟨next, hReaches, hNextAt, -, -⟩ :=
    reaches_of_fetchHere hFetch hFound hAt hToken (by omega)
  exact ⟨next, hReaches, hNextAt⟩

/-! ## §5 Tokens -/

/-- A collection is opened, and a key may begin in it. -/
theorem At.opening {c : Char} {token : Token}
    (hMark : c = '[' ∧ token = .flowSequenceStart ∨ c = '{' ∧ token = .flowMappingStart)
    (h : scanner.At depth tokens canKey (c :: text)) :
    ∃ next, scanner.Reaches next ∧ next.At (depth + 1) (token :: tokens) true text := by
  have hBegins : BeginsToken c ∧ token ≠ .streamEnd := by
    rcases hMark with ⟨rfl, rfl⟩ | ⟨rfl, rfl⟩ <;>
      exact ⟨⟨by decide, by decide, by decide⟩, by simp⟩
  refine h.step hBegins.1 hBegins.2 fun here hHere hRest => ?_
  obtain ⟨saved, hSaved, hAt, -, -⟩ := hHere.saveKey
  have hInside : { saved with keys := {} :: saved.keys }.At (depth + 1) tokens canKey (c :: text) :=
    ⟨hAt.text, hAt.indent, congrArg (· + 1) hAt.depth, List.forall_mem_cons.mpr ⟨rfl, hAt.free⟩,
      hAt.tokens, hAt.keyable⟩
  refine ⟨_, ?_, (hInside.allowKey true).take token text, Nat.le_refl _⟩
  rcases hMark with ⟨rfl, rfl⟩ | ⟨rfl, rfl⟩ <;>
    simp [fetchHere, hRest, isDocumentMark, openFlow, hSaved]

/-- A collection is closed. -/
theorem At.closing {c : Char} {token : Token}
    (hMark : c = ']' ∧ token = .flowSequenceEnd ∨ c = '}' ∧ token = .flowMappingEnd)
    (h : scanner.At (depth + 1) tokens canKey (c :: text)) :
    ∃ next, scanner.Reaches next ∧ next.At depth (token :: tokens) false text := by
  have hBegins : BeginsToken c ∧ token ≠ .streamEnd := by
    rcases hMark with ⟨rfl, rfl⟩ | ⟨rfl, rfl⟩ <;>
      exact ⟨⟨by decide, by decide, by decide⟩, by simp⟩
  refine h.step hBegins.1 hBegins.2 fun here hHere hRest => ?_
  obtain ⟨dropped, hDropped, hAt, -⟩ := hHere.dropKey
  have hOutside :
      { dropped with keys := dropped.keys.drop 1 }.At depth tokens canKey (c :: text) := by
    refine ⟨hAt.text, hAt.indent, ?_, fun slot hSlot => ?_, hAt.tokens, hAt.keyable⟩
    · simp [hAt.depth]
    · exact hAt.free slot (List.mem_of_mem_drop hSlot)
  refine ⟨_, ?_, (hOutside.allowKey false).take token text, Nat.le_refl _⟩
  rcases hMark with ⟨rfl, rfl⟩ | ⟨rfl, rfl⟩ <;>
    simp [fetchHere, hRest, isDocumentMark, closeFlow, hDropped, hAt.inFlow]

/-- A comma allows another key. -/
theorem At.comma (h : scanner.At depth tokens canKey (',' :: text)) :
    ∃ next, scanner.Reaches next ∧ next.At depth (.flowEntry :: tokens) true text := by
  refine h.step ⟨by decide, by decide, by decide⟩ (by simp) fun here hHere hRest => ?_
  obtain ⟨dropped, hDropped, hAt, -⟩ := hHere.dropKey
  refine ⟨_, ?_, (hAt.allowKey true).take .flowEntry text, Nat.le_refl _⟩
  simp [fetchHere, hRest, isDocumentMark, flowEntry, hDropped]

/-- A comma between parts of a collection, after which a key may begin. -/
theorem At.separator {isFirst : Bool}
    (h : scanner.At depth tokens isFirst (Yaml.separator isFirst ',' ++ text)) :
    ∃ next, scanner.Reaches next ∧
      next.At depth ((Yaml.separator isFirst .flowEntry).reverse ++ tokens) true text := by
  cases isFirst with
  | true => exact ⟨scanner, .refl scanner, h⟩
  | false => exact h.comma

theorem string_append (content : String) (rest : List Char) :
    Json.string content ++ rest = '"' :: (content.toList.flatMap Json.escape ++ '"' :: rest) := by
  simp [Json.string]

/-- A printed text is cut as one scalar, at which a key may begin. -/
theorem At.fetchHere_string {content : String} (hQuotable : Quotable content)
    (h : scanner.At depth tokens canKey (Json.string content ++ text))
    (hRest : scanner.cursor.rest = Json.string content ++ text) :
    ∃ found, scanner.fetchHere = some found ∧
      found.At depth (.scalar content false :: tokens) false text ∧
      found.cursor = scanner.cursor.moveTo text ∧
      (canKey = true →
        ∃ outer, found.keys = ⟨true, false, tokens.length, scanner.cursor.place⟩ :: outer) := by
  obtain ⟨saved, hSaved, hAt, hCursor, hKey⟩ := h.saveKey
  have hText := doubleQuoted_escape [] hQuotable text
  rw [string_append] at hRest
  refine ⟨_, ?_, (hAt.allowKey false).take (.scalar content false) text, ?_, hKey⟩
  · simp [fetchHere, hRest, isDocumentMark, keyLike, hSaved, hText, scalar]
  · simp [Scanner.take, Scanner.push, Scanner.moveTo, Scanner.allowKey, hCursor]

/-- A printed text is a scalar. -/
theorem At.string {content : String} (hQuotable : Quotable content)
    (h : scanner.At depth tokens canKey (Json.string content ++ text)) :
    ∃ next, scanner.Reaches next ∧ next.At depth (.scalar content false :: tokens) false text := by
  have hCons := string_append content text
  rw [hCons] at h
  refine h.step ⟨by decide, by decide, by decide⟩ (by simp) fun here hHere hRest => ?_
  rw [← hCons] at hHere hRest
  obtain ⟨found, hFound, hAt, hCursor, -⟩ := hHere.fetchHere_string hQuotable hRest
  refine ⟨found, hFound, hAt, ?_⟩
  rw [hCursor]
  simp [Cursor.moveTo]
  omega

/-- Digits neither separate documents, nor do they behind a dash. -/
theorem isDocumentMark_of_isDigit {c : Char} (h : c.isDigit = true) (rest : List Char) :
    isDocumentMark (c :: rest) = false ∧ isDocumentMark ('-' :: c :: rest) = false := by
  have hDash : c ≠ '-' := by
    rintro rfl
    exact absurd h (by decide)
  have hPoint : c ≠ '.' := by
    rintro rfl
    exact absurd h (by decide)
  constructor <;> simp [isDocumentMark, hDash, hPoint]

/-- A plain scalar begins at an integer. -/
theorem fetchHere_integer {value : Int}
    (h : scanner.cursor.rest = (toString value).toList ++ text) :
    scanner.fetchHere = scanner.plainScalar ((toString value).toList ++ text) := by
  have hTable : digitChars.all (fun c => !isGap c && !isIndicator c) = true := by decide
  have hDigits {c : Char} (h : c.isDigit = true) : isGap c = false ∧ isIndicator c = false := by
    simpa using List.all_eq_true.mp hTable c (mem_digitChars h)
  obtain ⟨c, rest, hCons, hFirst⟩ := toString_int_cons value
  rw [hCons, List.cons_append] at h ⊢
  rcases hFirst with hDigit | ⟨rfl, d, more, rfl, hDigit⟩
  · obtain ⟨hGap, hIndicator⟩ := hDigits hDigit
    have hBegins : beginsPlain scanner.inFlow (c :: (rest ++ text)) = true := by
      simp [beginsPlain, hGap, hIndicator]
    simp only [isIndicator, List.contains_eq_mem, List.mem_cons, decide_eq_false_iff_not,
      not_or] at hIndicator
    simp [fetchHere, h, hIndicator, isDocumentMark_of_isDigit hDigit, hBegins]
  · have hGap := (hDigits hDigit).1
    have hBlank : isBlank d = false := by
      rw [isGap, Bool.or_eq_false_iff] at hGap
      exact hGap.1
    have hBegins : beginsPlain scanner.inFlow ('-' :: d :: (more ++ text)) = true := by
      simp [beginsPlain, hBlank]
    simp [fetchHere, h, isDocumentMark_of_isDigit hDigit, endsWord, hGap, hBegins]

/-- A printed integer is a scalar, which ends before the mark behind it. -/
theorem At.integer {value : Int} (hText : EndsPlain text)
    (h : scanner.At (depth + 1) tokens canKey ((toString value).toList ++ text)) :
    ∃ next, scanner.Reaches next ∧
      next.At (depth + 1) (.scalar (toString value) true :: tokens) false text := by
  have hTable : integerChars.all
      (fun c => !isGap c && c != '#' && !isByteOrderMark c) = true := by decide
  obtain ⟨c, rest, hCons, -⟩ := toString_int_cons value
  have hBegins : BeginsToken c := by
    have hChar := List.all_eq_true.mp hTable c (mem_integerChars (by rw [hCons]; simp))
    simp only [Bool.and_eq_true, Bool.not_eq_true', bne_iff_ne] at hChar
    exact ⟨hChar.1.1, hChar.1.2, hChar.2⟩
  have hSource : (toString value).toList ++ text = c :: (rest ++ text) := by rw [hCons]; rfl
  rw [hSource] at h
  refine h.step hBegins (by simp) fun here hHere hRest => ?_
  rw [← hSource] at hHere hRest
  obtain ⟨saved, hSaved, hAt, hCursor, -⟩ := hHere.saveKey
  obtain ⟨last, hPlain⟩ := plain_integer value hText (saved.indent + 1).toNat saved.column
  -- what follows the scalar begins behind the gap in front of the mark
  have hTaken := (hAt.allowKey last.hasBreak).take (.scalar (toString value) true)
    (text.dropWhile isSpacing)
  refine ⟨_, ?_, { hTaken.weaken with text := ?_ }, ?_⟩
  · rw [fetchHere_integer hRest]
    simp only [plainScalar, hSaved, hAt.inFlow, hPlain, Option.bind_eq_bind, Option.bind_some,
      Option.pure_def, String.ofList_toList]
  · rw [hTaken.text, List.dropWhile_idempotent]
  · have hLength := (List.dropWhile_sublist isSpacing (l := text)).length_le
    show (text.dropWhile isSpacing).length ≤ (rest ++ text).length
    rw [List.length_append]
    omega

/-- The place behind characters of one line. -/
theorem Place.past_of_not_isBreak (place : Place) {line : List Char}
    (h : ∀ c ∈ line, isBreak c = false) :
    place.past line = ⟨place.index + line.length, place.line, place.column + line.length⟩ := by
  fun_induction Place.past place line with
  | case1 place => rfl
  | case2 place rest ih => exact absurd (h '\n' (by simp)) (by decide)
  | case3 place c rest _ hBreak ih => exact absurd (h c (by simp)) (by simp [hBreak])
  | case4 place c rest _ hBreak ih =>
    rw [List.forall_mem_cons] at h
    rw [ih h.2]
    simp [Nat.add_assoc, Nat.add_comm 1]

/-- A slot at the beginning of a short string is not out of date behind it. -/
theorem isOutdated_of_short {cursor : Cursor} {written rest : List Char}
    (hRest : cursor.rest = written ++ rest) (hLine : ∀ c ∈ written, isBreak c = false)
    (hShort : written.length ≤ 1024) (token : Nat) :
    isOutdated (cursor.moveTo rest).place ⟨true, false, token, cursor.place⟩ = false := by
  have hTaken : cursor.rest.take (cursor.rest.length - rest.length) = written := by
    simp [hRest]
  simp only [Cursor.moveTo, hTaken, Place.past_of_not_isBreak cursor.place hLine, isOutdated]
  simp
  omega

/-- A colon turns the scalar before it into a key, if that was remembered. -/
theorem At.fetchHere_colon {token : Token} {place : Place}
    (h : scanner.At (depth + 1) (token :: tokens) canKey (':' :: text))
    (hRest : scanner.cursor.rest = ':' :: text)
    (hHolds : scanner.Holds ⟨true, false, tokens.length, place⟩) :
    ∃ found, scanner.fetchHere = some found ∧
      found.At (depth + 1) (.value :: token :: .key :: tokens) false text ∧
      found.cursor.rest = text := by
  obtain ⟨slot, outer, hKeys, hLength, hSlot, hOuter⟩ := h.keys_eq_cons
  obtain rfl : slot = ⟨true, false, tokens.length, place⟩ := by
    simpa [hKeys] using hHolds.innermost
  let slot : KeySlot := ⟨false, false, tokens.length, place⟩
  -- the mark comes in front of the latest token
  have hMarked : { scanner with keys := slot :: outer, tokens := token :: .key :: tokens }.At
      (depth + 1) (token :: .key :: tokens) canKey (':' :: text) :=
    { h.withSlot slot rfl hLength hOuter with tokens := rfl }
  refine ⟨_, ?_, (hMarked.allowKey false).take .value text, rfl⟩
  have hInsert : scanner.insertAt tokens.length .key =
      { scanner with tokens := token :: .key :: tokens } := by
    have hBehind : tokens.length + 1 - tokens.length = 1 := by omega
    simp [insertAt, h.tokens, hBehind]
  have hBlock : { scanner with tokens := token :: .key :: tokens }.openBlock place.column
      (some tokens.length) .blockMappingStart =
        { scanner with tokens := token :: .key :: tokens } := by
    have hFlow : { scanner with tokens := token :: .key :: tokens }.inFlow = true := h.inFlow
    simp [openBlock, hFlow]
  have hMark : scanner.markKey ⟨true, false, tokens.length, place⟩ =
      { scanner with keys := slot :: outer, tokens := token :: .key :: tokens } := by
    simp only [markKey, hInsert, hBlock]
    simp [hKeys, slot]
  simp [fetchHere, hRest, isDocumentMark, h.inFlow, valueMark, hKeys, hMark]

/-- A printed key, with the colon behind it, is a scalar that is marked as a key. -/
theorem At.memberKey {name : String} (hQuotable : Quotable name)
    (hShort : (Json.string name).length ≤ 1024)
    (h : scanner.At (depth + 1) tokens true (Json.key name ++ text)) :
    ∃ next, scanner.Reaches next ∧
      next.At (depth + 1) (.value :: .scalar name false :: .key :: tokens) false text := by
  have hSource : Json.key name ++ text = Json.string name ++ ':' :: ' ' :: text := by
    simp [Json.key]
  have hQuote : BeginsToken '"' := ⟨by decide, by decide, by decide⟩
  have hColon : BeginsToken ':' := ⟨by decide, by decide, by decide⟩
  have hDrop : (Json.string name ++ ':' :: ' ' :: text).dropWhile isSpacing =
      Json.string name ++ ':' :: ' ' :: text := by
    rw [string_append]
    exact hQuote.dropWhile _
  rw [hSource] at h
  -- first the string, at which a key may begin
  obtain ⟨here, hHere, hCursor, -, hFetch⟩ := h.fetch (by
    rw [hDrop, string_append]
    rintro c ⟨⟩
    exact hQuote)
  rw [hDrop] at hHere hCursor
  have hRest : here.cursor.rest = Json.string name ++ ':' :: ' ' :: text := by rw [hCursor]; rfl
  obtain ⟨found, hFound, hAt, hFoundCursor, hKeys⟩ := hHere.fetchHere_string hQuotable hRest
  obtain ⟨outer, hKeys⟩ := hKeys rfl
  have hHolds : found.Holds ⟨true, false, tokens.length, here.cursor.place⟩ := by
    refine ⟨by rw [hKeys]; rfl, ?_⟩
    rw [hFoundCursor]
    exact isOutdated_of_short hRest (fun c hc => (allowed_of_mem_string hQuotable hc).2) hShort _
  have hLength := h.length_le
  rw [hDrop] at hLength
  obtain ⟨middle, hFirst, hMiddle, hMiddleCursor, hMiddleHolds⟩ :=
    reaches_of_fetchHere hFetch hFound hAt (by simp) (by
      rw [hFoundCursor]
      simp only [Cursor.moveTo, List.length_append, Json.string, List.length_cons] at hLength ⊢
      omega)
  -- then the colon, which follows at once, so that the slot is still there
  obtain ⟨colon, hColonAt, hColonCursor, hColonHolds, hColonFetch⟩ := hMiddle.fetch (by
    rw [hColon.dropWhile]
    rintro c ⟨⟩
    exact hColon)
  rw [hColon.dropWhile] at hColonAt hColonCursor
  have hSame : colon.cursor = middle.cursor := by
    rw [hColonCursor, hMiddleCursor, hFoundCursor]
    simp [Cursor.moveTo, Place.past]
  obtain ⟨marked, hMarked, hMarkedAt, hMarkedRest⟩ := hColonAt.fetchHere_colon
    (by rw [hColonCursor]; rfl) (hColonHolds _ (by rw [hSame]; exact hMiddleHolds _ hHolds))
  obtain ⟨next, hSecond, hNext, -, -⟩ := reaches_of_fetchHere hColonFetch hMarked hMarkedAt
    (by simp) (by rw [hMarkedRest, hMiddleCursor, hFoundCursor]; simp [Cursor.moveTo])
  exact ⟨next, hFirst.trans hSecond, { hNext with text := hNext.text }⟩

end Scanner

end Outline.Yaml
