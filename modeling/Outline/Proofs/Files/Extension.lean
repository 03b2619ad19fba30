import Mathlib.Data.List.TakeWhile
import Outline.Files.Path

/-!
# Extensions of paths

What the extension of a path is, said on the text of the path: the path ends in a name, behind
which only slashes and single dots stand, and the name has a dot that is not its first character.
The extension is what follows the last dot of the name.

- `Path.splitAll_eq_splitOn` — cutting a text at a separator
- `Path.EndsIn` — the part in which a path ends
- `Path.fileName?_eq_some_iff` — the name that is read from a path
- `Path.HasExtension`, `Path.extension?_eq_some_iff` — the extension that is read from a path
-/

namespace Outline.Path

/-! ## §1 Parts -/

theorem splitAll_eq_splitOn (separator : Char) (text : List Char) :
    splitAll separator text = text.splitOn separator := by
  induction text with
  | nil => rw [splitAll, List.splitOn_nil]
  | cons c rest ih =>
    obtain ⟨first, others, hRest⟩ := List.exists_cons_of_ne_nil (List.splitOn_ne_nil separator rest)
    rw [splitAll, List.splitOn_cons_eq_if_modifyHead, ih, hRest]
    simp only [beq_iff_eq, List.modifyHead_cons]

/-- Parts that are put together have a separator in front of each but the first. -/
theorem intercalate_cons_eq (separator : Char) (first : List Char) (others : List (List Char)) :
    [separator].intercalate (first :: others) = first ++ others.flatMap (separator :: ·) := by
  induction others generalizing first with
  | nil => simp
  | cons second rest ih =>
    rw [List.intercalate_cons_cons, ih]
    simp

theorem eq_of_splitAll {separator : Char} {text first : List Char} {others : List (List Char)}
    (h : splitAll separator text = first :: others) :
    text = first ++ others.flatMap (separator :: ·) := by
  rw [← intercalate_cons_eq, ← h, splitAll_eq_splitOn, List.intercalate_splitOn]

/-- No part has a separator inside. -/
theorem notMem_of_mem_splitAll {separator : Char} {text : List Char} :
    ∀ part ∈ splitAll separator text, separator ∉ part := by
  rw [splitAll_eq_splitOn]
  induction text with
  | nil => simp
  | cons c rest ih =>
    obtain ⟨first, others, hRest⟩ := List.exists_cons_of_ne_nil (List.splitOn_ne_nil separator rest)
    rw [List.splitOn_cons_eq_if_modifyHead]
    rw [hRest] at ih ⊢
    -- a separator begins a new part, any other character goes to the first one
    split
    · exact List.forall_mem_cons.mpr ⟨List.not_mem_nil, ih⟩
    · rename_i hNe
      obtain ⟨hFirst, hOthers⟩ := List.forall_mem_cons.mp ih
      rw [List.modifyHead_cons, List.forall_mem_cons]
      refine ⟨?_, hOthers⟩
      rw [List.mem_cons, not_or]
      exact ⟨fun hSame => hNe (by simp [hSame]), hFirst⟩

/-! ## §2 Names -/

/-- Slashes, each with or without a single dot behind it. At the end of a path they do not
    matter. -/
inductive Idle : List Char → Prop where
  | nil : Idle []
  | slash {rest : List Char} : Idle rest → Idle ('/' :: rest)
  | dot {rest : List Char} : Idle rest → Idle ('/' :: '.' :: rest)

/-- A text ends in a part, alone or behind a slash, if nothing behind that part matters. -/
inductive EndsIn (part : List Char) : List Char → Prop where
  | alone {rest : List Char} : Idle rest → EndsIn part (part ++ rest)
  | below {front rest : List Char} : Idle rest → EndsIn part (front ++ '/' :: (part ++ rest))

/-- A part of a path that names something in a directory. -/
structure IsName (part : List Char) : Prop where
  noSlash : '/' ∉ part
  ne_nil : part ≠ []
  ne_here : part ≠ ['.']
  ne_up : part ≠ ['.', '.']

/-- An empty part and a single dot do not matter, wherever they stand. -/
def IsIdle (part : List Char) : Prop := part = [] ∨ part = ['.']

/-- What does not matter at the end of a path is cut into parts that do not matter. -/
theorem Idle.exists_splitOn {rest : List Char} (h : Idle rest) {part : List Char}
    (hPart : '/' ∉ part) :
    ∃ parts, (part ++ rest).splitOn '/' = part :: parts ∧ ∀ idle ∈ parts, IsIdle idle := by
  induction h generalizing part with
  | nil =>
    refine ⟨[], ?_, by simp⟩
    rw [List.append_nil, List.splitOn_eq_singleton hPart]
  | slash _ ih =>
    obtain ⟨parts, hParts, hIdle⟩ := ih List.not_mem_nil
    refine ⟨[] :: parts, ?_, List.forall_mem_cons.mpr ⟨.inl rfl, hIdle⟩⟩
    rw [List.splitOn_append_cons_self_of_not_mem hPart]
    exact congrArg (part :: ·) hParts
  | dot _ ih =>
    have hDot : '/' ∉ ['.'] := by decide
    obtain ⟨parts, hParts, hIdle⟩ := ih hDot
    refine ⟨['.'] :: parts, ?_, List.forall_mem_cons.mpr ⟨.inr rfl, hIdle⟩⟩
    rw [List.splitOn_append_cons_self_of_not_mem hPart]
    exact congrArg (part :: ·) hParts

theorem idle_of_isIdle {parts : List (List Char)} (h : ∀ part ∈ parts, IsIdle part) :
    Idle (parts.flatMap ('/' :: ·)) := by
  induction parts with
  | nil => exact .nil
  | cons first others ih =>
    rw [List.forall_mem_cons] at h
    rcases h.1 with rfl | rfl
    · exact .slash (ih h.2)
    · exact .dot (ih h.2)

/-- A text ends in a part exactly if, cut at the slashes, it has only parts behind that one which
    do not matter. -/
theorem endsIn_iff {part text : List Char} (hPart : '/' ∉ part) :
    EndsIn part text ↔ ∃ before after, splitAll '/' text = before ++ part :: after ∧
      ∀ idle ∈ after, IsIdle idle := by
  constructor
  · intro h
    rw [splitAll_eq_splitOn]
    cases h with
    | alone hRest =>
      obtain ⟨after, hParts, hIdle⟩ := hRest.exists_splitOn hPart
      exact ⟨[], after, hParts, hIdle⟩
    | @below front _ hRest =>
      obtain ⟨after, hParts, hIdle⟩ := hRest.exists_splitOn hPart
      refine ⟨front.splitOn '/', after, ?_, hIdle⟩
      rw [List.splitOn_append_cons_self, hParts]
  · rintro ⟨before, after, hParts, hIdle⟩
    have hRest := idle_of_isIdle hIdle
    cases before with
    | nil =>
      rw [eq_of_splitAll hParts]
      exact .alone hRest
    | cons first others =>
      rw [List.cons_append] at hParts
      rw [eq_of_splitAll hParts, List.flatMap_append, List.flatMap_cons, ← List.append_assoc]
      exact .below hRest

theorem matters_iff {part : String} : (part ≠ "" ∧ part ≠ ".") ↔ ¬ IsIdle part.toList := by
  rw [IsIdle, not_or, ne_eq, ne_eq, ← String.toList_inj, ← String.toList_inj]
  rfl

/-- The last part of a path that matters is the one in which the path ends. -/
theorem getLast?_parts_eq_some_iff {path part : String} :
    (parts path).getLast? = some part ↔
      '/' ∉ part.toList ∧ ¬ IsIdle part.toList ∧ EndsIn part.toList path.toList := by
  rw [parts, List.getLast?_filter, List.find?_eq_some_iff_append]
  simp only [decide_eq_true_eq, matters_iff, Bool.not_eq_true', decide_eq_false_iff_not, not_not]
  -- parts are searched from the end on, so what the search passes stands behind the part
  constructor
  · rintro ⟨hMatters, after, before, hReverse, hIdle⟩
    have hParts : rawParts path = before.reverse ++ part :: after.reverse := by
      rw [← List.reverse_reverse (rawParts path), hReverse]
      simp
    have hSplit : splitAll '/' path.toList =
        before.reverse.map String.toList ++ part.toList :: after.reverse.map String.toList := by
      have hTexts := congrArg (List.map String.toList) hParts
      simpa [rawParts, Function.comp_def] using hTexts
    have hSlash : '/' ∉ part.toList := by
      apply notMem_of_mem_splitAll
      rw [hSplit]
      simp
    refine ⟨hSlash, hMatters, (endsIn_iff hSlash).mpr ⟨_, _, hSplit, ?_⟩⟩
    simpa using hIdle
  · rintro ⟨hSlash, hMatters, hEnds⟩
    obtain ⟨before, after, hSplit, hIdle⟩ := (endsIn_iff hSlash).mp hEnds
    refine ⟨hMatters, (after.map String.ofList).reverse, (before.map String.ofList).reverse, ?_, ?_⟩
    · rw [rawParts, hSplit]
      simp
    · simpa using hIdle

/-- The name that is read from a path is the one in which the path ends. -/
theorem fileName?_eq_some_iff {path name : String} :
    fileName? path = some name ↔ IsName name.toList ∧ EndsIn name.toList path.toList := by
  have hUp : name ≠ ".." ↔ name.toList ≠ ['.', '.'] := by
    rw [ne_eq, ← String.toList_inj]
    rfl
  rw [fileName?, Option.filter_eq_some_iff, getLast?_parts_eq_some_iff, decide_eq_true_eq, hUp]
  constructor
  · rintro ⟨⟨hSlash, hMatters, hEnds⟩, hNotUp⟩
    exact ⟨⟨hSlash, fun h => hMatters (.inl h), fun h => hMatters (.inr h), hNotUp⟩, hEnds⟩
  · rintro ⟨hName, hEnds⟩
    exact ⟨⟨hName.noSlash, fun h => h.elim hName.ne_nil hName.ne_here, hEnds⟩, hName.ne_up⟩

/-! ## §3 Extensions -/

/-- The extension of a path: what follows the last dot of the name in which the path ends, if
    there is something in front of that dot. -/
def HasExtension (path extension : String) : Prop :=
  ∃ stem, stem ≠ [] ∧ '.' ∉ extension.toList ∧ IsName (stem ++ '.' :: extension.toList) ∧
    EndsIn (stem ++ '.' :: extension.toList) path.toList

/-- What follows the last dot of a name is read from it, if the dot is not its first character. -/
theorem nameExtension?_eq_some_iff {name extension : String} :
    nameExtension? name = some extension ↔ ∃ stem, stem ≠ [] ∧ '.' ∉ extension.toList ∧
      name.toList = stem ++ '.' :: extension.toList := by
  unfold nameExtension?
  constructor
  · intro h
    simp only at h
    split at h
    · rename_i c rest hBehind
      cases h
      -- the name is turned around, so that its last dot comes first
      have hName : name.toList.reverse =
          name.toList.reverse.takeWhile (· ≠ '.') ++ '.' :: c :: rest := by
        rw [← hBehind]
        exact (List.prefix_iff_eq_append.mp (List.takeWhile_prefix _)).symm
      refine ⟨(c :: rest).reverse, by simp, ?_, ?_⟩
      · rw [String.toList_ofList, List.mem_reverse]
        intro hDot
        simpa using List.mem_takeWhile_imp hDot
      · have hTurned := congrArg List.reverse hName
        simpa using hTurned
    · cases h
  · rintro ⟨stem, hStem, hNoDot, hName⟩
    obtain ⟨c, rest, hTurned⟩ : ∃ c rest, stem.reverse = c :: rest :=
      List.exists_cons_of_ne_nil (by simpa using hStem)
    have hNotDot : ∀ c ∈ extension.toList.reverse, decide (c ≠ '.') = true := by
      intro c hc
      rw [decide_eq_true_eq]
      rintro rfl
      exact hNoDot (List.mem_reverse.mp hc)
    have hReversed : name.toList.reverse = extension.toList.reverse ++ '.' :: c :: rest := by
      rw [hName, List.reverse_append, List.reverse_cons, hTurned]
      simp
    have hTake : name.toList.reverse.takeWhile (· ≠ '.') = extension.toList.reverse := by
      rw [hReversed, List.takeWhile_append_of_pos hNotDot]
      simp
    simp only [hTake]
    simp only [hReversed, List.drop_left, List.reverse_reverse, String.ofList_toList]

/-- The extension that is read from a path is the one that the path has. -/
theorem extension?_eq_some_iff {path extension : String} :
    extension? path = some extension ↔ HasExtension path extension := by
  rw [extension?, Option.bind_eq_some_iff]
  simp only [fileName?_eq_some_iff, nameExtension?_eq_some_iff]
  constructor
  · rintro ⟨name, ⟨hName, hEnds⟩, stem, hStem, hNoDot, hParts⟩
    rw [hParts] at hName hEnds
    exact ⟨stem, hStem, hNoDot, hName, hEnds⟩
  · rintro ⟨stem, hStem, hNoDot, hName, hEnds⟩
    refine ⟨String.ofList (stem ++ '.' :: extension.toList), ?_, stem, hStem, hNoDot, ?_⟩
    · rw [String.toList_ofList]
      exact ⟨hName, hEnds⟩
    · rw [String.toList_ofList]

/-- A path has one extension at most. -/
theorem HasExtension.unique {path extension other : String} (h : HasExtension path extension)
    (hOther : HasExtension path other) : extension = other := by
  rw [← extension?_eq_some_iff] at h hOther
  exact Option.some.inj (h.symm.trans hOther)

/-- Only the name in which a path ends counts, and only its last dot. -/
example : ["./a.b/tree.v2.JSON/./", "a.json/..", "a.json/b", "x/.json", "..json", "tree."].map
    extension? = [some "JSON", none, none, none, some "json", some ""] := by
  decide +kernel

end Outline.Path
