import Outline.Proofs.Record.Checking
import Outline.Proofs.Yaml.Reading
import Outline.Proofs.Yaml.Resolution
import Outline.Record.Description

/-!
# Integers in documents

The value of an integer node is read in two steps. A plain scalar is resolved first, and if it
stands for a text, then the text is trimmed and read as a decimal number, so that zeros in front
and blanks around it do no harm. Together the two steps accept exactly the scalars that denote
an integer.

- `integer_resolvePlain_iff` — the integers that are read from plain scalars
- `ReadsAs`, `recordAt_valued` — records with a plain scalar as their value
- `Node.ofYaml_integer` — the integer nodes that are loaded
-/


namespace Outline

open Yaml
open Number (Signed int64OfInt?_eq_some_iff)

/-! ## §1 Values -/

/-- The integer that the value of an entry stands for. -/
def RecordValue.integer? : RecordValue → Option Int64
  | int value => some value
  | text content => integerOfText? content

/-- The integers of 64 bits that plain scalars stand for, at once or as texts, are those that
    they denote. -/
theorem Yaml.integer_resolvePlain_iff {scalar : String} {n : Int64} :
    (recordValue? (resolvePlain scalar)).bind RecordValue.integer? = some n ↔
      IntegerScalar n.toInt scalar.toList := by
  constructor
  · intro h
    -- of all that a scalar may stand for only integers and texts are values
    cases hResolved : resolvePlain scalar with
    | integer m =>
      simp only [hResolved, recordValue?, Option.bind_map, Option.bind_eq_some_iff] at h
      obtain ⟨value, hValue, hSame⟩ := h
      cases hSame
      obtain rfl := int64OfInt?_eq_some_iff.mp hValue
      obtain ⟨m, hSigned, hLooks | ⟨_, hLooks⟩⟩ :=
        integer?_eq_some (integer?_of_resolvePlain hResolved)
      · cases hLooks
        exact integerScalar_of_size hSigned
      · cases hLooks
    | text content =>
      obtain rfl := eq_of_resolvePlain hResolved
      rw [hResolved] at h
      exact .decimal (integerOfText?_eq_some_iff.mp h)
    | null | boolean | wideInteger | float =>
      rw [hResolved] at h
      cases h
  · intro h
    rcases resolvePlain_of_integerScalar h with hResolved | ⟨hResolved, hText⟩
    · rw [hResolved, recordValue?, int64OfInt?_eq_some_iff.mpr rfl]
      rfl
    · rw [hResolved]
      exact integerOfText?_eq_some_iff.mpr hText

/-! ## §2 Fields -/

namespace Yaml

variable {α : Type} {document : Document} {depth count : Nat} {path : String}

/-- A reader gives what is expected, or it refuses a plain scalar, which is no value then. -/
def ReadsAs (scalar : String) (read expected : Except Problem α) : Prop :=
  read = expected ∨
    recordValue? (resolvePlain scalar) = none ∧ ∃ problem, read = .error problem

/-- A plain scalar gives an entry the value that it is resolved to, unless it is refused. There
    is no value for null. -/
theorem optionalValue_plain (anchor : Option Nat) (scalar : String) :
    ReadsAs scalar
      ((optionalValue document depth path (.scalar anchor none scalar true)).run count)
      (.ok (recordValue? (resolvePlain scalar), count)) := by
  have hPresent : isPresent (.scalar anchor none scalar true) =
      .ok !(scalar.isEmpty || isNullWord scalar) := rfl
  have hFollow : follow document (.scalar anchor none scalar true) =
      pure (.scalar anchor none scalar true) := rfl
  rw [optionalValue, hFollow, pure_bind, hPresent]
  cases hNull : scalar.isEmpty || isNullWord scalar with
  | true =>
    -- null is left out without a look at what it is resolved to
    left
    rw [resolvePlain, hNull, if_pos rfl]
    rfl
  | false =>
    have hResolve : resolve none scalar true = some (resolvePlain scalar) := rfl
    rw [ReadsAs, anyValue, hFollow, pure_bind]
    simp only [isOwnTag, Option.any_none, Bool.false_eq_true, if_false, hResolve]
    cases resolvePlain scalar with
    | wideInteger n negative => exact .inr ⟨rfl, _, rfl⟩
    | integer n =>
      simp only [recordValue?]
      cases Number.int64OfInt? n with
      | some value => exact .inl rfl
      | none => exact .inr ⟨rfl, _, rfl⟩
    | text content => exact .inl rfl
    | null | boolean | float => exact .inr ⟨rfl, _, rfl⟩

/-- A scalar with a given text, in any style and with any properties. -/
def IsScalar (text : String) (content : Content) : Prop :=
  ∃ anchor tag isPlain, content = .scalar anchor tag text isPlain

theorem membersAt_kindText {draft : Draft} (hNew : draft.kind = none) {kind : String}
    {key value : Content} (hKey : IsScalar "kind" key) (hValue : IsScalar kind value)
    (rest : List Content) :
    (membersAt document depth path draft (key :: value :: rest)).run count =
      (membersAt document depth path { draft with kind := some kind } rest).run count := by
  obtain ⟨_, _, _, rfl⟩ := hKey
  obtain ⟨_, _, _, rfl⟩ := hValue
  rw [membersAt]
  simp [stringAt, follow, hNew]

theorem membersAt_plain (draft : Draft) (hNew : draft.value = none) {key : Content}
    (hKey : IsScalar "value" key) (anchor : Option Nat) (scalar : String) (rest : List Content) :
    ReadsAs scalar
      ((membersAt document depth path draft
        (key :: .scalar anchor none scalar true :: rest)).run count)
      ((membersAt document depth path
        { draft with value := some (recordValue? (resolvePlain scalar)) } rest).run count) := by
  obtain ⟨_, _, _, rfl⟩ := hKey
  have hValue : ReadsAs scalar
      ((optionalValue document depth path (.scalar anchor none scalar true)).run count) _ :=
    optionalValue_plain anchor scalar
  rw [membersAt]
  rcases hValue with hRead | ⟨hNone, problem, hRefused⟩
  · left
    simp [stringAt, follow, hNew, hRead]
  · refine .inr ⟨hNone, problem, ?_⟩
    simp only [stringAt, follow, hNew, hRefused, pure_bind, StateT.run_bind, Option.isSome_none,
      Bool.false_eq_true, if_false]
    rfl

/-- A mapping with a kind and a plain scalar without a tag as its value, in either order. -/
inductive Valued (kind scalar : String) : Content → Prop where
  | kindFirst {anchor valueAnchor : Option Nat} {tag : Option String}
      {kindKey kindText valueKey : Content} : IsScalar "kind" kindKey → IsScalar kind kindText →
      IsScalar "value" valueKey →
      Valued kind scalar (.mapping anchor tag
        [kindKey, kindText, valueKey, .scalar valueAnchor none scalar true])
  | valueFirst {anchor valueAnchor : Option Nat} {tag : Option String}
      {kindKey kindText valueKey : Content} : IsScalar "kind" kindKey → IsScalar kind kindText →
      IsScalar "value" valueKey →
      Valued kind scalar (.mapping anchor tag
        [valueKey, .scalar valueAnchor none scalar true, kindKey, kindText])

/-- Such a mapping is read as an entry with the kind and the value. -/
theorem recordAt_valued {kind scalar : String} {content : Content}
    (h : Valued kind scalar content) :
    ReadsAs scalar ((recordAt document (depth + 1) path content).run count)
      (.ok (⟨⟨kind, none, recordValue? (resolvePlain scalar)⟩, []⟩, count)) := by
  have hMapping (anchor : Option Nat) (tag : Option String) (members : List Content) :
      (recordAt document (depth + 1) path (.mapping anchor tag members)).run count =
        (membersAt document depth path {} members).run count := by
    rw [recordAt]
    rfl
  have hEnd : (membersAt document depth path
      { kind := some kind, value := some (recordValue? (resolvePlain scalar)) } []).run count =
        .ok (⟨⟨kind, none, recordValue? (resolvePlain scalar)⟩, []⟩, count) := by
    rw [membersAt]
    rfl
  cases h with
  | kindFirst hKindKey hKind hValueKey =>
    rw [hMapping, membersAt_kindText rfl hKindKey hKind, ← hEnd]
    exact membersAt_plain _ rfl hValueKey _ _ _
  | @valueFirst _ valueAnchor _ kindKey kindText _ hKindKey hKind hValueKey =>
    have hRead : ReadsAs scalar ((membersAt document depth path {} _).run count) _ :=
      membersAt_plain {} rfl hValueKey valueAnchor scalar [kindKey, kindText]
    rw [membersAt_kindText rfl hKindKey hKind, hEnd] at hRead
    rw [hMapping]
    exact hRead

end Yaml

/-! ## §3 Integer nodes -/

/-- What is loaded for a scalar as an integer: what is made of the integer that it denotes, and
    an error if it denotes none. -/
def LoadsInteger {α : Type} (scalar : String) (made : Int64 → α) (loaded : Except LoadError α) :
    Prop :=
  (∀ n : Int64, loaded = .ok (made n) ↔ IntegerScalar n.toInt scalar.toList) ∧
    ((∃ error, loaded = .error error) ↔ ∀ n : Int64, ¬ IntegerScalar n.toInt scalar.toList)

/-- A result that is made of an integer if there is one, and an error otherwise. -/
def MadeOf {ε α : Type} (made : Int64 → α) (integer : Option Int64) (result : Except ε α) : Prop :=
  match integer with
  | some n => result = .ok (made n)
  | none => ∃ error, result = .error error

theorem MadeOf.map {ε α β : Type} {made : Int64 → α} {integer : Option Int64}
    {result : Except ε α} (h : MadeOf made integer result) (f : α → β) :
    MadeOf (fun n => f (made n)) integer (result.map f) := by
  cases integer with
  | some n => exact congrArg (Except.map f) h
  | none =>
    obtain ⟨error, rfl⟩ := h
    exact ⟨error, rfl⟩

theorem MadeOf.mapError {ε η α : Type} {made : Int64 → α} {integer : Option Int64}
    {result : Except ε α} (h : MadeOf made integer result) (wrap : ε → η) :
    MadeOf made integer (result.mapError wrap) := by
  cases integer with
  | some n => exact congrArg (Except.mapError wrap) h
  | none =>
    obtain ⟨error, rfl⟩ := h
    exact ⟨wrap error, rfl⟩

/-- What is made of the value that a scalar stands for is made of the integer that it denotes. -/
theorem MadeOf.loadsInteger {α : Type} {scalar : String} {made : Int64 → α}
    {loaded : Except LoadError α}
    (h : MadeOf made ((recordValue? (resolvePlain scalar)).bind RecordValue.integer?) loaded)
    (hMade : Function.Injective made) : LoadsInteger scalar made loaded := by
  simp only [LoadsInteger, ← integer_resolvePlain_iff]
  cases hValue : (recordValue? (resolvePlain scalar)).bind RecordValue.integer? with
  | some n =>
    rw [hValue] at h
    rw [show loaded = _ from h]
    simp [hMade.eq_iff]
  | none =>
    rw [hValue] at h
    obtain ⟨error, rfl⟩ := h
    simp

/-- An integer entry describes the integer that its value stands for, or it fails. -/
theorem Entry.toKind_of_integer {kind : String} (hKind : Spells "integer" kind)
    (name : Option String) (value : Option RecordValue) :
    MadeOf .integer (value.bind RecordValue.integer?) (Entry.mk kind name value).toKind := by
  cases value with
  | none => exact ⟨_, (Fails.noInteger hKind rfl).toKind_eq⟩
  | some value =>
    cases value with
    | int n => exact (Describes.integer hKind rfl).toKind_eq
    | text content =>
      rw [Option.bind_some, RecordValue.integer?]
      cases hText : integerOfText? content with
      | some n =>
        exact (Describes.numericText hKind rfl (integerOfText?_eq_some_iff.mp hText)).toKind_eq
      | none =>
        refine ⟨_, (Fails.otherText hKind rfl ?_).toKind_eq⟩
        intro n hDenotes
        rw [integerOfText?_eq_some_iff.mpr hDenotes] at hText
        cases hText

/-- The kind of an entry whose value has been read, or why there is none. -/
def entryKind (kind : String) (name : Option String)
    (read : Except Problem (Option RecordValue × Nat)) : Except LoadError Kind :=
  match read with
  | .error problem => .error (.yaml problem)
  | .ok (value, _) => (Entry.mk kind name value).toKind.mapError .entry

theorem loadsInteger_entryKind {scalar kind : String} (hKind : Spells "integer" kind)
    (name : Option String) {count : Nat} {read : Except Problem (Option RecordValue × Nat)}
    (h : ReadsAs scalar read (.ok (recordValue? (resolvePlain scalar), count))) :
    LoadsInteger scalar .integer (entryKind kind name read) := by
  refine MadeOf.loadsInteger ?_ fun m n hSame => Kind.integer.inj hSame
  rcases h with rfl | ⟨hNone, problem, rfl⟩
  · exact (Entry.toKind_of_integer hKind name _).mapError LoadError.entry
  · rw [hNone]
    exact ⟨_, rfl⟩

theorem loadsInteger_load {scalar kind : String} (hKind : Spells "integer" kind)
    {read : Except Problem Record}
    (h : ReadsAs scalar read (.ok ⟨⟨kind, none, recordValue? (resolvePlain scalar)⟩, []⟩)) :
    LoadsInteger scalar (fun n => (⟨.integer n, []⟩ : Node)) (Record.load .yaml read).value := by
  have hMade : Function.Injective fun n : Int64 => (⟨.integer n, []⟩ : Node) := by
    intro m n hSame
    cases hSame
    rfl
  -- the entry of a node without children makes the node
  have hLeaf (entry : Entry) : (Record.toNode ⟨entry, []⟩).value =
      entry.toKind.map fun kind => (⟨kind, []⟩ : Node) := by
    rw [Record.toNode, Record.toNodeEach]
    cases entry.toKind <;> rfl
  refine MadeOf.loadsInteger ?_ hMade
  rcases h with rfl | ⟨hNone, problem, rfl⟩
  · show MadeOf _ _ ((Record.toNode _).value.mapError LoadError.entry)
    rw [hLeaf]
    exact ((Entry.toKind_of_integer hKind none _).map _).mapError LoadError.entry
  · rw [hNone]
    exact ⟨_, rfl⟩

/-- **Integers in documents.** An integer node is loaded with a plain scalar as its value exactly
    if the scalar denotes an integer of 64 bits, and as that integer, while everything else is
    refused, whatever else the entry or the document has. Zeros in front of decimal digits make
    a scalar a text, which denotes the same integer as without them. -/
theorem Node.ofYaml_integer (scalar : String) :
    (∀ (document : Document) (depth count : Nat) (path kind : String) (anchor : Option Nat)
      (name : Option String), Spells "integer" kind →
      LoadsInteger scalar .integer (entryKind kind name
        ((optionalValue document depth path (.scalar anchor none scalar true)).run count))) ∧
    (∀ source kind : String, Spells "integer" kind →
      Valued kind scalar (Document.ofText source.toList).root →
      (Document.ofText source.toList).isAlone = true →
      LoadsInteger scalar (fun n => (⟨.integer n, []⟩ : Node)) (Node.ofYaml source).value) ∧
    ∀ n, Signed ZeroPadded n scalar.toList →
      resolvePlain scalar = .text scalar ∧ IntegerText n scalar.toList := by
  refine ⟨?_, ?_, fun n => resolvePlain_of_zeroPadded⟩
  · intro document depth count path kind anchor name hKind
    exact loadsInteger_entryKind hKind name (optionalValue_plain anchor scalar)
  · intro source kind hKind hValued hAlone
    apply loadsInteger_load hKind
    have hRead : ReadsAs scalar
        ((recordAt (Document.ofText source.toList) maxDepth "" _).run 0) _ :=
      recordAt_valued hValued
    rcases hRead with hRecord | ⟨hNone, problem, hProblem⟩
    · left
      simp only [Record.ofYaml, hRecord, hAlone, if_true]
    · refine .inr ⟨hNone, problem, ?_⟩
      simp only [Record.ofYaml, hProblem]

/-- A scalar with zeros in front, which a document may well have, is loaded in base ten. -/
theorem Node.ofYaml_integer_padded :
    Spells "integer" "integer" ∧
      Valued "integer" "-007" (Document.ofText "kind: integer\nvalue: -007\n".toList).root ∧
      (Document.ofText "kind: integer\nvalue: -007\n".toList).isAlone = true ∧
      resolvePlain "-007" = .text "-007" ∧
      (Node.ofYaml "kind: integer\nvalue: -007\n").value = .ok ⟨.integer (-7), []⟩ := by
  have hRoot : (Document.ofText "kind: integer\nvalue: -007\n".toList).root = .mapping none none
      [.scalar none none "kind" true, .scalar none none "integer" true,
        .scalar none none "value" true, .scalar none none "-007" true] := by cbv
  have hAlone : (Document.ofText "kind: integer\nvalue: -007\n".toList).isAlone = true := by cbv
  have hKind : Spells "integer" "integer" := by decide
  have hValued :
      Valued "integer" "-007" (Document.ofText "kind: integer\nvalue: -007\n".toList).root := by
    rw [hRoot]
    exact .kindFirst ⟨_, _, _, rfl⟩ ⟨_, _, _, rfl⟩ ⟨_, _, _, rfl⟩
  have hSeven : Number.Numeral 10 7 ['0', '7'] :=
    ⟨by decide, [0, 7], .cons ⟨by decide, rfl⟩ (.cons ⟨by decide, rfl⟩ .nil), rfl⟩
  have hPadded : Signed ZeroPadded (-7) "-007".toList := .minus ⟨_, rfl, hSeven⟩
  obtain ⟨-, hLoads, hZeros⟩ := Node.ofYaml_integer "-007"
  obtain ⟨hResolved, hText⟩ := hZeros (-7) hPadded
  refine ⟨hKind, hValued, hAlone, hResolved, ?_⟩
  exact ((hLoads _ "integer" hKind hValued hAlone).1 (-7)).mpr (.decimal hText)

end Outline
