import Outline.Proofs.Dump.Limit

/-!
# Dumps into a writer of limited size

A writer that stores a limited number of bytes can run full at any byte of a dump, also
within a character or between a line and its line break. Whatever it takes at a time, it
ends up with the beginning of one stream of bytes: the lines of the rows before the first one
that is too deep.

- `Writer.Storage` — what a writer has to do in order to count as a store of bytes
- `Writer.Storage.Sent` — all bytes were stored, or the rest was refused by a full writer
- `Writer.Storage.dumpToWriter_sent` — what a dump sends, and how it ends
- `dumpToWriter_bounded` — content, result and flushes of a store of limited size
-/

namespace Outline

variable {σ δ : Type}

/-! ## §1 Stores of bytes -/

/-- What is known of a store of bytes. -/
structure Holding where
  /-- How many bytes may be stored; without a number, all are. -/
  capacity : Option Nat
  stored : List UInt8
  /-- How often the store was flushed. -/
  flushes : Nat

namespace Holding

/-- How many more bytes may be stored. -/
def room? (holding : Holding) : Option Nat := holding.capacity.map (· - holding.stored.length)

/-- There is room for a number of bytes. -/
def Fits (holding : Holding) (count : Nat) : Prop := ∀ room ∈ holding.room?, count ≤ room

/-- The store with more bytes in it. -/
def add (holding : Holding) (bytes : List UInt8) : Holding :=
  { holding with stored := holding.stored ++ bytes }

@[simp] theorem room?_add (holding : Holding) (bytes : List UInt8) :
    (holding.add bytes).room? = holding.room?.map (· - bytes.length) := by
  cases hCapacity : holding.capacity <;> simp [room?, add, hCapacity, Nat.sub_sub]

@[simp] theorem add_add (holding : Holding) (first second : List UInt8) :
    (holding.add first).add second = holding.add (first ++ second) := by
  simp [add]

theorem fits_add {holding : Holding} {bytes : List UInt8} {count : Nat}
    (hBytes : holding.Fits bytes.length) (hCount : (holding.add bytes).Fits count) :
    holding.Fits (bytes.length + count) := by
  intro room hRoom
  have hLess := hBytes room hRoom
  have hLeft := hCount (room - bytes.length) (by simp [Option.mem_def.mp hRoom])
  omega

/-- A store that has no room for a single byte is full. -/
theorem room?_of_not_fits {holding : Holding} (h : ¬ holding.Fits 1) : holding.room? = some 0 := by
  cases hRoom : holding.room? with
  | none => simp [Fits, hRoom] at h
  | some room =>
    simp [Fits, hRoom] at h
    simp [h]

end Holding

/-- The writer, offered bytes, fails or takes none of them. -/
def Writer.Refuses (writer : Writer σ) (bytes : List UInt8) (before : σ) (cause : IoFailure)
    (left : σ) : Prop :=
  writer.write bytes before = (.error cause, left) ∨
    cause = .tookNothing ∧ writer.write bytes before = (.ok 0, left)

/-- A writer that stores what it takes. As long as there is room it takes some of the bytes it
    is offered, and a full one takes none. -/
structure Writer.Storage (writer : Writer σ) where
  /-- The store in a state of the writer. -/
  view : σ → Holding
  takes : ∀ bytes state, bytes ≠ [] → (view state).Fits 1 → ∃ taken left,
    writer.write bytes state = (.ok (taken + 1), left) ∧ taken + 1 ≤ bytes.length ∧
      (view state).Fits (taken + 1) ∧ view left = (view state).add (bytes.take (taken + 1))
  refuses : ∀ bytes state, bytes ≠ [] → ¬ (view state).Fits 1 → ∃ cause left,
    writer.Refuses bytes state cause left ∧ view left = view state
  flushed : ∀ state, view (writer.flush state).2 =
    { view state with flushes := (view state).flushes + 1 }

namespace BoundedBuffer

/-- The store that a buffer is. -/
def holding (buffer : BoundedBuffer) : Holding := ⟨buffer.capacity, buffer.stored, buffer.flushes⟩

/-- A buffer takes as many of the bytes as there is room for. -/
theorem write_of_fits {bytes : List UInt8} {buffer : BoundedBuffer} (hBytes : bytes ≠ [])
    (hFits : buffer.holding.Fits 1) :
    ∃ count, write bytes buffer = (.ok (count + 1),
        { buffer with stored := buffer.stored ++ bytes.take (count + 1) }) ∧
      count + 1 ≤ bytes.length ∧ buffer.holding.Fits (count + 1) := by
  have hLength : 0 < bytes.length := List.length_pos_iff.mpr hBytes
  cases hCapacity : buffer.capacity with
  | none =>
    refine ⟨bytes.length - 1, ?_, ?_, ?_⟩
    · simp [write, hCapacity, Nat.sub_add_cancel hLength]
    · omega
    · simp [Holding.Fits, Holding.room?, holding, hCapacity]
  | some capacity =>
    have hRoom : 1 ≤ capacity - buffer.stored.length := by
      simpa [Holding.Fits, Holding.room?, holding, hCapacity] using hFits
    -- what is taken is limited by the bytes there are and by the room
    have hCount : min (capacity - buffer.stored.length) bytes.length - 1 + 1 =
        min (capacity - buffer.stored.length) bytes.length := by omega
    refine ⟨min (capacity - buffer.stored.length) bytes.length - 1, ?_, ?_, ?_⟩
    · have hSome : capacity - buffer.stored.length ≠ 0 := by omega
      have hTaken : bytes.take (min (capacity - buffer.stored.length) bytes.length) =
          bytes.take (capacity - buffer.stored.length) := List.take_eq_take_min.symm
      simp [write, hCapacity, hBytes, hSome, hCount, hTaken]
    · omega
    · simp only [Holding.Fits, Holding.room?, holding, hCapacity, Option.map_some, Option.mem_some]
      rintro room rfl
      omega

/-- A full buffer refuses all bytes. -/
theorem write_of_not_fits {bytes : List UInt8} {buffer : BoundedBuffer} (hBytes : bytes ≠ [])
    (hFull : ¬ buffer.holding.Fits 1) :
    ∃ cause, writer.Refuses bytes buffer cause buffer := by
  have hRoom := Holding.room?_of_not_fits hFull
  obtain ⟨capacity, hCapacity, hZero⟩ := Option.map_eq_some_iff.mp hRoom
  simp only [holding] at hCapacity hZero
  cases hZeroTaken : buffer.fullTakesNothing with
  | true =>
    refine ⟨.tookNothing, .inr ⟨rfl, ?_⟩⟩
    simp [writer, write, hCapacity, hZero, hBytes, hZeroTaken]
  | false =>
    refine ⟨.other "sink closed", .inl ?_⟩
    simp [writer, write, hCapacity, hZero, hBytes, hZeroTaken]

/-- Bounded buffers store what they take. -/
def storage : writer.Storage where
  view := holding
  takes bytes buffer hBytes hFits := by
    obtain ⟨count, hWrite, hCount, hRoom⟩ := write_of_fits hBytes hFits
    exact ⟨count, _, hWrite, hCount, hRoom, rfl⟩
  refuses bytes buffer hBytes hFull := by
    obtain ⟨cause, hRefuses⟩ := write_of_not_fits hBytes hFull
    exact ⟨cause, buffer, hRefuses, rfl⟩
  flushed buffer := by
    cases hRefuses : buffer.refusesFlush <;> simp [writer, flush, holding, hRefuses]

end BoundedBuffer

/-! ## §2 Sending bytes -/

namespace Writer

namespace Storage

variable {writer : Writer σ} (storage : writer.Storage)

/-- What sending bytes comes to: either all of them are stored, or the store has less room, is
    filled up, and refuses what it is offered then. -/
inductive Sent (bytes : List UInt8) (state : σ) : Except IoFailure Unit → σ → Prop where
  | stored {left : σ} (fits : (storage.view state).Fits bytes.length)
      (added : storage.view left = (storage.view state).add bytes) :
      Sent bytes state (.ok ()) left
  | refused {room : Nat} {cause : IoFailure} {before left : σ} {offered : List UInt8}
      (full : (storage.view state).room? = some room) (less : room < bytes.length)
      (filled : storage.view before = (storage.view state).add (bytes.take room))
      (refuses : offered ≠ [] ∧ writer.Refuses offered before cause left)
      (kept : storage.view left = storage.view before) :
      Sent bytes state (.error cause) left

variable {storage}

theorem Sent.nil (state : σ) : storage.Sent [] state (.ok ()) state := by
  apply Sent.stored
  · intro room _
    simp
  · simp [Holding.add]

theorem Sent.append {first second : List UInt8} {state middle left : σ}
    {result : Except IoFailure Unit} (hFirst : storage.Sent first state (.ok ()) middle)
    (hSecond : storage.Sent second middle result left) :
    storage.Sent (first ++ second) state result left := by
  cases hFirst with
  | stored hFits hAdded =>
    cases hSecond with
    | stored hFitsToo hAddedToo =>
      rw [hAdded] at hFitsToo hAddedToo
      apply Sent.stored
      · simpa using Holding.fits_add hFits hFitsToo
      · simpa using hAddedToo
    | refused hFull hLess hFilled hRefuses hKept =>
      rw [hAdded] at hFull hFilled
      rw [Holding.room?_add] at hFull
      obtain ⟨room, hRoom, rfl⟩ := Option.map_eq_some_iff.mp hFull
      have hFirst := hFits room hRoom
      refine Sent.refused hRoom ?_ ?_ hRefuses hKept
      · rw [List.length_append]
        omega
      · rw [hFilled, Holding.add_add, List.take_append, List.take_of_length_le hFirst]

theorem Sent.append_of_error {first : List UInt8} {state left : σ} {cause : IoFailure}
    (h : storage.Sent first state (.error cause) left) (second : List UInt8) :
    storage.Sent (first ++ second) state (.error cause) left := by
  cases h with
  | refused hFull hLess hFilled hRefuses hKept =>
    refine Sent.refused hFull ?_ ?_ hRefuses hKept
    · rw [List.length_append]
      omega
    · rw [hFilled, List.take_append_of_le_length (Nat.le_of_lt hLess)]

/-- An empty store of limited size is left with the bytes there was room for. -/
theorem Sent.view_left {bytes : List UInt8} {state left : σ} {result : Except IoFailure Unit}
    {capacity flushes : Nat} (h : storage.Sent bytes state result left)
    (hStart : storage.view state = ⟨some capacity, [], flushes⟩) :
    storage.view left = ⟨some capacity, bytes.take capacity, flushes⟩ := by
  have hRoom : (storage.view state).room? = some capacity := by simp [hStart, Holding.room?]
  cases h with
  | stored hFits hAdded =>
    rw [hAdded, hStart, List.take_of_length_le (hFits capacity hRoom)]
    rfl
  | refused hFull hLess hFilled hRefuses hKept =>
    rw [hRoom] at hFull
    cases hFull
    rw [hKept, hFilled, hStart]
    rfl

variable (storage)

/-- Offering bytes until all are taken sends them. -/
theorem writeAll_sent (bytes : List UInt8) (state : σ) :
    storage.Sent bytes state (writer.writeAll bytes state).1 (writer.writeAll bytes state).2 := by
  -- each write that takes something leaves fewer bytes to be offered
  induction hLength : bytes.length using Nat.strongRecOn generalizing bytes state with
  | ind length ih =>
    cases bytes with
    | nil =>
      rw [Writer.writeAll]
      exact Sent.nil state
    | cons byte rest =>
      by_cases hFits : (storage.view state).Fits 1
      · obtain ⟨taken, left, hWrite, hTaken, hRoom, hAdded⟩ :=
          storage.takes (byte :: rest) state (List.cons_ne_nil _ _) hFits
        have hFirst : storage.Sent ((byte :: rest).take (taken + 1)) state (.ok ()) left := by
          apply Sent.stored _ hAdded
          rwa [List.length_take, Nat.min_eq_left hTaken]
        have hShort : (rest.drop taken).length < length := by
          rw [List.length_drop, ← hLength, List.length_cons]
          omega
        have hRest := ih _ hShort (rest.drop taken) left rfl
        have hBoth := hFirst.append hRest
        rw [Writer.writeAll]
        simpa [hWrite] using hBoth
      · obtain ⟨cause, left, hRefuses, hKept⟩ :=
          storage.refuses (byte :: rest) state (List.cons_ne_nil _ _) hFits
        have hSent : storage.Sent (byte :: rest) state (.error cause) left := by
          refine Sent.refused (Holding.room?_of_not_fits hFits) (by simp) ?_
            ⟨List.cons_ne_nil _ _, hRefuses⟩ hKept
          simp [Holding.add]
        rw [Writer.writeAll]
        rcases hRefuses with hWrite | ⟨rfl, hWrite⟩
        · simpa [hWrite] using hSent
        · simpa [hWrite] using hSent

theorem bytesOf_append (first second : String) :
    bytesOf (first ++ second) = bytesOf first ++ bytesOf second := by
  simp [bytesOf]

/-- A line is sent together with its line break. -/
theorem emit_sent (line : String) (state : σ) :
    ∃ result left, storage.Sent (bytesOf (line ++ "\n")) state result left ∧
      writer.sink.emit line state = (result.mapError .io, left) := by
  have hLine := storage.writeAll_sent (bytesOf line) state
  rw [bytesOf_append]
  simp only [Writer.sink]
  cases hFirst : writer.writeAll (bytesOf line) state with
  | mk result middle =>
    rw [hFirst] at hLine
    cases result with
    | error cause => exact ⟨_, _, hLine.append_of_error _, rfl⟩
    | ok done =>
      have hBreak := storage.writeAll_sent (bytesOf "\n") middle
      cases hSecond : writer.writeAll (bytesOf "\n") middle with
      | mk result left =>
        rw [hSecond] at hBreak
        refine ⟨_, _, hLine.append hBreak, ?_⟩
        simp only [hSecond]
        cases result <;> rfl

/-- Offering rows to the sink of a writer sends their lines as one text. -/
theorem fold_emit_sent (options : DumpOptions) (rows : List DumpRow) (data : δ) (state : σ) :
    ∃ result left, storage.Sent (bytesOf (DumpRow.text options.indentUnit rows)) state result left ∧
      Step.fold (DumpRow.emit writer.sink options) rows data state =
        ((result.mapError DumpError.io).map fun () => data, left) := by
  induction rows generalizing state with
  | nil => exact ⟨_, _, Sent.nil state, rfl⟩
  | cons row rest ih =>
    have hText : DumpRow.text options.indentUnit (row :: rest) =
        row.line options.indentUnit ++ "\n" ++ DumpRow.text options.indentUnit rest := by
      simp [DumpRow.text]
    obtain ⟨result, middle, hRow, hEmit⟩ := storage.emit_sent (row.line options.indentUnit) state
    rw [hText, bytesOf_append, Step.fold_cons]
    simp only [DumpRow.emit, hEmit]
    cases result with
    | error cause => exact ⟨_, _, hRow.append_of_error _, rfl⟩
    | ok done =>
      obtain ⟨result, left, hRest, hFold⟩ := ih middle
      exact ⟨result, left, hRow.append hRest, hFold⟩

end Storage

/-- How a dump ends that has sent what it had to send. -/
def conclude (writer : Writer σ) (excess : Option DumpError) (result : Except IoFailure Unit)
    (left : σ) : Except DumpError Unit × σ :=
  match result, excess with
  | .error cause, _ => (.error (.io cause), left)
  | .ok (), some error => (.error error, left)
  -- only a complete dump is flushed
  | .ok (), none => ((writer.flush left).1.mapError .io, (writer.flush left).2)

theorem dumpToWriter_value (writer : Writer σ) (options : DumpOptions) (root : Node) (state : σ) :
    (dumpToWriter writer options root state).value =
      Step.andThen (dumpWith writer.sink options root () state).value
        fun () left => ((writer.flush left).1.mapError .io, (writer.flush left).2) := by
  simp only [dumpToWriter, Logged.map]
  obtain ⟨error | done, left⟩ := (dumpWith writer.sink options root () state).value
  · rfl
  · simp only [Step.andThen_ok]
    obtain ⟨cause | done, last⟩ := writer.flush left <;> rfl

/-- A dump into a store sends the lines of the accepted rows. -/
theorem Storage.dumpToWriter_sent {writer : Writer σ} (storage : writer.Storage)
    (options : DumpOptions) (root : Node) (state : σ) :
    ∃ result left,
      storage.Sent (bytesOf (DumpRow.text options.indentUnit (options.accepted (root.dumpRows 0))))
        state result left ∧
      (dumpToWriter writer options root state).value =
        writer.conclude (options.excess? (root.dumpRows 0)) result left := by
  obtain ⟨result, left, hSent, hFold⟩ :=
    storage.fold_emit_sent options (options.accepted (root.dumpRows 0)) () state
  refine ⟨result, left, hSent, ?_⟩
  rw [dumpToWriter_value, dumpWith_value, DumpRow.fold_write_eq, hFold]
  cases result with
  | error cause => rfl
  | ok done =>
    unfold DumpOptions.conclude
    cases options.excess? (root.dumpRows 0) <;> rfl

/-- Neither an error nor a flush changes what is stored. -/
theorem Storage.stored_conclude {writer : Writer σ} (storage : writer.Storage)
    (excess : Option DumpError) (result : Except IoFailure Unit) (left : σ) :
    (storage.view (writer.conclude excess result left).2).stored = (storage.view left).stored := by
  cases result with
  | error cause => rfl
  | ok done => cases excess <;> simp [conclude, storage.flushed]

end Writer

/-! ## §3 Stores of limited size -/

/-- **A dump into a store of limited size.** The store ends up with as many bytes as it has
    room for of the lines before the first row that is too deep. If that is not all of them,
    the result is the failure with which the full store refused what it was offered. Otherwise
    the result is the error of the row that is too deep, and if there is none, the result of
    flushing; only in this case the store has been flushed, once, and what it holds is the dump
    as text. -/
theorem dumpToWriter_bounded {writer : Writer σ} (storage : writer.Storage) (options : DumpOptions)
    (root : Node) (start : σ) {capacity flushes : Nat}
    (hStart : storage.view start = ⟨some capacity, [], flushes⟩) :
    let rows := root.dumpRows 0
    let bytes := Writer.bytesOf (DumpRow.text options.indentUnit (options.accepted rows))
    let run := (dumpToWriter writer options root start).value
    (storage.view run.2).stored = bytes.take (min capacity bytes.length) ∧
    (capacity < bytes.length →
      (∃ cause before offered, run.1 = .error (.io cause) ∧ offered ≠ [] ∧
        storage.view before = ⟨some capacity, bytes.take capacity, flushes⟩ ∧
        writer.Refuses offered before cause run.2) ∧
      (storage.view run.2).flushes = flushes) ∧
    (bytes.length ≤ capacity → ∀ error, options.excess? rows = some error →
      run.1 = .error error ∧ (storage.view run.2).flushes = flushes) ∧
    (bytes.length ≤ capacity → options.excess? rows = none →
      (∃ full, storage.view full = ⟨some capacity, bytes, flushes⟩ ∧
        run = ((writer.flush full).1.mapError .io, (writer.flush full).2)) ∧
      (storage.view run.2).flushes = flushes + 1) ∧
    (options.excess? rows = none →
      ∃ text, (dumpToString options root).value = .ok text ∧ bytes = Writer.bytesOf text) := by
  intro rows bytes run
  obtain ⟨result, left, hSent, hRun⟩ := storage.dumpToWriter_sent options root start
  change run = _ at hRun
  have hLeft : storage.view left = ⟨some capacity, bytes.take capacity, flushes⟩ :=
    hSent.view_left hStart
  have hStored : (storage.view run.2).stored = bytes.take (min capacity bytes.length) := by
    rw [hRun, storage.stored_conclude, hLeft]
    exact List.take_eq_take_min
  have hText : options.excess? rows = none →
      ∃ text, (dumpToString options root).value = .ok text ∧ bytes = Writer.bytesOf text := by
    intro hNone
    refine ⟨DumpRow.text options.indentUnit rows, ?_, ?_⟩
    · rw [dumpToString_value, hNone]
    · rw [← DumpOptions.accepted_of_excess? hNone]
  have hRoom : (storage.view start).room? = some capacity := by simp [hStart, Holding.room?]
  -- whether all bytes were sent decides between the three ways to end
  cases hSent with
  | @refused room cause before _ offered hFull hLess hFilled hRefuses hKept =>
    rw [hRoom] at hFull
    cases hFull
    refine ⟨hStored, ?_, ?_, ?_, hText⟩
    · intro _
      rw [hRun]
      refine ⟨⟨cause, before, offered, rfl, hRefuses.1, ?_, hRefuses.2⟩, ?_⟩
      · rw [← hKept, hLeft]
      · simp [Writer.conclude, hLeft]
    · intro hAll
      exact absurd hLess (Nat.not_lt.mpr hAll)
    · intro hAll
      exact absurd hLess (Nat.not_lt.mpr hAll)
  | stored hFits hAdded =>
    have hAll : bytes.length ≤ capacity := hFits capacity hRoom
    rw [List.take_of_length_le hAll] at hLeft
    refine ⟨hStored, ?_, ?_, ?_, hText⟩
    · intro hLess
      exact absurd hLess (Nat.not_lt.mpr hAll)
    · intro _ error hError
      rw [hRun, hError]
      simp [Writer.conclude, hLeft]
    · intro _ hNone
      rw [hRun, hNone]
      refine ⟨⟨left, hLeft, rfl⟩, ?_⟩
      simp [Writer.conclude, storage.flushed, hLeft]

/-- A buffer that runs full within a character keeps the part of the character it took. -/
theorem dumpToWriter_bounded_within_character :
    let root : Node := ⟨.start, [⟨.identifier "é", []⟩]⟩
    let run := (dumpToWriter BoundedBuffer.writer {} root { capacity := some 19 }).value
    BoundedBuffer.storage.view { capacity := some 19 } = ⟨some 19, [], 0⟩ ∧
      run.2.stored = (Writer.bytesOf "Start\n Identifier(é)\n").take 19 ∧
      (∃ cause, run.1 = .error (.io cause)) ∧ run.2.flushes = 0 := by
  intro root run
  have hBytes : Writer.bytesOf (DumpRow.text " " (DumpOptions.accepted {} (root.dumpRows 0))) =
      Writer.bytesOf "Start\n Identifier(é)\n" := by decide +kernel
  have hStart : BoundedBuffer.storage.view { capacity := some 19 } = ⟨some 19, [], 0⟩ := rfl
  obtain ⟨hStored, hRefused, -⟩ :=
    dumpToWriter_bounded BoundedBuffer.storage {} root { capacity := some 19 } hStart
  simp only [hBytes] at hStored hRefused
  have hLess : 19 < (Writer.bytesOf "Start\n Identifier(é)\n").length := by decide +kernel
  obtain ⟨⟨cause, -, -, hResult, -⟩, hFlushes⟩ := hRefused hLess
  rw [Nat.min_eq_left (Nat.le_of_lt hLess)] at hStored
  exact ⟨hStart, hStored, ⟨cause, hResult⟩, hFlushes⟩

/-! ## §4 Buffers without a limit -/

namespace BoundedBuffer

theorem writeAll_unlimited {buffer : BoundedBuffer} (h : buffer.capacity = none)
    (bytes : List UInt8) :
    writer.writeAll bytes buffer = (.ok (), { buffer with stored := buffer.stored ++ bytes }) := by
  cases bytes with
  | nil => simp [Writer.writeAll]
  | cons byte rest =>
    -- the first write takes all bytes, so nothing is left to be offered
    simp [Writer.writeAll, writer, write, h]

theorem emit_unlimited {buffer : BoundedBuffer} (h : buffer.capacity = none) (line : String) :
    writer.sink.emit line buffer =
      (.ok (), { buffer with stored := buffer.stored ++ Writer.bytesOf (line ++ "\n") }) := by
  simp [Writer.sink, writeAll_unlimited, h, Writer.bytesOf]

/-- A buffer without a limit holds the lines of all rows it is offered. -/
theorem fold_emit_unlimited {buffer : BoundedBuffer} (h : buffer.capacity = none)
    (options : DumpOptions) (rows : List DumpRow) (data : δ) :
    Step.fold (DumpRow.emit writer.sink options) rows data buffer =
      (.ok data, { buffer with
        stored := buffer.stored ++ Writer.bytesOf (DumpRow.text options.indentUnit rows) }) := by
  induction rows generalizing buffer with
  | nil => simp [DumpRow.text, Writer.bytesOf]
  | cons row rest ih =>
    rw [Step.fold_cons]
    simp only [DumpRow.emit, emit_unlimited h]
    show Step.fold (DumpRow.emit writer.sink options) rest data _ = _
    rw [ih]
    · simp [DumpRow.text, Writer.bytesOf]
    · exact h

end BoundedBuffer

end Outline
