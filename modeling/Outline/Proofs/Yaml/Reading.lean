import Outline.Yaml.Reader

/-!
# What readers of documents have read

Readers of documents follow aliases, count them, and fail with the first problem. Each lemma
here says what must have been there for one of them to succeed: which node stood behind the
aliases, and what was read from its parts.

- `Document.resolve?` — the node behind an alias
- `run_bind_eq_ok`, `run_guard_eq_ok` — steps of a reader
- `recordAt_eq_ok`, `membersAt_cons_eq_ok`, `childrenAt_eq_ok`, `itemsAt_cons_eq_ok` — records
-/

namespace Outline.Yaml

variable {α β : Type}

/-! ## §1 Steps -/

@[simp] theorem ok_bind (value : α) (next : α → Except Problem β) :
    (Except.ok value >>= next) = next value :=
  rfl

@[simp] theorem pure_eq_ok (value : α) : (pure value : Except Problem α) = .ok value :=
  rfl

theorem run_bind_eq_ok {x : Reading α} {next : α → Reading β} {count left : Nat} {value : β} :
    (x >>= next).run count = .ok (value, left) ↔
      ∃ first middle, x.run count = .ok (first, middle) ∧
        (next first).run middle = .ok (value, left) := by
  rw [StateT.run_bind]
  cases hFirst : x.run count with
  | error problem => simp [bind, Except.bind]
  | ok result =>
    obtain ⟨first, middle⟩ := result
    constructor
    · intro h
      exact ⟨first, middle, rfl, h⟩
    · rintro ⟨_, _, hSame, h⟩
      cases hSame
      exact h

theorem run_pure_eq_ok {read value : α} {count left : Nat} :
    (pure read : Reading α).run count = .ok (value, left) ↔ read = value ∧ count = left := by
  constructor
  · intro h
    cases h
    exact ⟨rfl, rfl⟩
  · rintro ⟨rfl, rfl⟩
    rfl

theorem run_throw_ne_ok {problem : Problem} {value : α} {count left : Nat} :
    (throw problem : Reading α).run count ≠ .ok (value, left) := by
  intro h
  cases h

/-- A reader that makes sure of something first. -/
theorem run_guard_eq_ok {fails : Prop} [Decidable fails] {problem : Problem} {x : Reading α}
    {value : α} {count left : Nat} :
    (if fails then (throw problem : Reading PUnit) >>= fun _ => x else x).run count =
        .ok (value, left) ↔ ¬ fails ∧ x.run count = .ok (value, left) := by
  by_cases hFails : fails
  · simp only [hFails, if_true, not_true_eq_false, false_and, iff_false]
    intro h
    obtain ⟨_, _, hThrown, -⟩ := run_bind_eq_ok.mp h
    exact run_throw_ne_ok hThrown
  · simp [hFails]

/-! ## §2 Aliases -/

/-- The node itself, or the one that an alias refers to. -/
def Document.resolve? (document : Document) : Content → Option Content
  | .alias anchor => document.target? anchor
  | content => some content

/-- A node whose text is `name`. -/
def Document.Names (document : Document) (content : Content) (name : String) : Prop :=
  ∃ anchor tag isPlain, document.resolve? content = some (.scalar anchor tag name isPlain)

theorem Document.Names.unique {document : Document} {content : Content} {name other : String}
    (h : document.Names content name) (hOther : document.Names content other) : name = other := by
  obtain ⟨_, _, _, hName⟩ := h
  obtain ⟨_, _, _, hSame⟩ := hOther
  rw [hName] at hSame
  cases hSame
  rfl

section

variable {document : Document} {depth count left : Nat} {path : String}

theorem follow_eq_ok {content target : Content}
    (h : (follow document content).run count = .ok (target, left)) :
    document.resolve? content = some target := by
  unfold follow at h
  split at h
  · -- an alias is counted before its target is looked up
    obtain ⟨_, _, -, h⟩ := run_bind_eq_ok.mp h
    obtain ⟨_, _, -, h⟩ := run_bind_eq_ok.mp h
    obtain ⟨-, h⟩ := run_guard_eq_ok.mp h
    split at h
    · rename_i anchor _ found hTarget
      obtain ⟨rfl, -⟩ := run_pure_eq_ok.mp h
      exact hTarget
    · exact absurd h run_throw_ne_ok
  · obtain ⟨rfl, -⟩ := run_pure_eq_ok.mp h
    rename_i hAlias
    unfold Document.resolve?
    split
    · exact absurd rfl (hAlias _)
    · rfl

theorem stringAt_eq_ok {expected text : String} {content : Content}
    (h : (stringAt document path expected content).run count = .ok (text, left)) :
    document.Names content text := by
  unfold stringAt at h
  obtain ⟨target, middle, hTarget, h⟩ := run_bind_eq_ok.mp h
  split at h
  · obtain ⟨rfl, -⟩ := run_pure_eq_ok.mp h
    exact ⟨_, _, _, follow_eq_ok hTarget⟩
  · exact absurd h run_throw_ne_ok

/-! ## §3 Records -/

/-- A record is a mapping, and reading its members enters it. -/
theorem recordAt_eq_ok {content : Content} {record : Record}
    (h : (recordAt document depth path content).run count = .ok (record, left)) :
    ∃ inside anchor tag members middle, depth = inside + 1 ∧
      document.resolve? content = some (.mapping anchor tag members) ∧
      (membersAt document inside path {} members).run middle = .ok (record, left) := by
  rw [recordAt] at h
  obtain ⟨target, middle, hTarget, h⟩ := run_bind_eq_ok.mp h
  split at h
  · split at h
    · exact absurd h run_throw_ne_ok
    · exact ⟨_, _, _, _, _, rfl, follow_eq_ok hTarget, h⟩
  · split at h <;> exact absurd h run_throw_ne_ok

theorem membersAt_nil_eq_ok {draft : Draft} {record : Record}
    (h : (membersAt document depth path draft []).run count = .ok (record, left)) :
    draft.finish = .ok record := by
  rw [membersAt] at h
  split at h
  · obtain ⟨rfl, -⟩ := run_pure_eq_ok.mp h
    assumption
  · exact absurd h run_throw_ne_ok

theorem membersAt_singleton_ne_ok {draft : Draft} {record : Record} {key : Content} :
    (membersAt document depth path draft [key]).run count ≠ .ok (record, left) := by
  intro h
  rw [membersAt] at h
  obtain ⟨_, _, -, h⟩ := run_bind_eq_ok.mp h
  exact run_throw_ne_ok h

/-- A member of a record adds to the draft; only the field for the children adds children, and
    it is there once. -/
theorem membersAt_cons_eq_ok {draft : Draft} {record : Record} {key value : Content}
    {rest : List Content}
    (h : (membersAt document depth path draft (key :: value :: rest)).run count =
      .ok (record, left)) :
    ∃ name next middle, document.Names key name ∧
      (membersAt document depth path next rest).run middle = .ok (record, left) ∧
      (name ≠ "children" ∧ next.children = draft.children ∨
        name = "children" ∧ draft.children = none ∧ ∃ children place start,
          (childrenAt document depth place value).run start = .ok (children, middle) ∧
          next.children = some children) := by
  rw [membersAt] at h
  obtain ⟨name, middle, hName, h⟩ := run_bind_eq_ok.mp h
  have hKey := stringAt_eq_ok hName
  -- the four fields come first, each refused if it is there already, then whatever is ignored
  split at h
  case h_1 =>
    obtain ⟨-, h⟩ := run_guard_eq_ok.mp h
    obtain ⟨kind, last, -, hRest⟩ := run_bind_eq_ok.mp h
    exact ⟨_, _, _, hKey, hRest, .inl ⟨by decide, rfl⟩⟩
  case h_2 =>
    obtain ⟨-, h⟩ := run_guard_eq_ok.mp h
    obtain ⟨name, last, -, hRest⟩ := run_bind_eq_ok.mp h
    exact ⟨_, _, _, hKey, hRest, .inl ⟨by decide, rfl⟩⟩
  case h_3 =>
    obtain ⟨-, h⟩ := run_guard_eq_ok.mp h
    obtain ⟨found, last, -, hRest⟩ := run_bind_eq_ok.mp h
    exact ⟨_, _, _, hKey, hRest, .inl ⟨by decide, rfl⟩⟩
  case h_4 =>
    obtain ⟨hOnce, h⟩ := run_guard_eq_ok.mp h
    obtain ⟨children, last, hChildren, hRest⟩ := run_bind_eq_ok.mp h
    have hNone : draft.children = none := by simpa using hOnce
    exact ⟨_, _, _, hKey, hRest, .inr ⟨rfl, hNone, children, _, _, hChildren, rfl⟩⟩
  case h_5 hNot =>
    split at h
    · exact ⟨_, _, _, hKey, h, .inl ⟨hNot, rfl⟩⟩
    · exact absurd h run_throw_ne_ok

/-- Children are the items of a sequence, and reading them enters it, unless there is nothing
    at all. -/
theorem childrenAt_eq_ok {content : Content} {children : List Record}
    (h : (childrenAt document depth path content).run count = .ok (children, left)) :
    (∃ target, document.resolve? content = some target ∧ isAbsent target = true ∧ children = []) ∨
    ∃ inside anchor tag items middle, depth = inside + 1 ∧
      document.resolve? content = some (.sequence anchor tag items) ∧
      (itemsAt document inside path 0 items).run middle = .ok (children, left) := by
  rw [childrenAt] at h
  obtain ⟨target, middle, hTarget, h⟩ := run_bind_eq_ok.mp h
  split at h
  · -- a sequence is entered only if there is something left to enter
    split at h
    · exact absurd h run_throw_ne_ok
    · exact .inr ⟨_, _, _, _, _, rfl, follow_eq_ok hTarget, h⟩
  · split at h
    · obtain ⟨rfl, -⟩ := run_pure_eq_ok.mp h
      exact .inl ⟨_, follow_eq_ok hTarget, ‹_›, rfl⟩
    · exact absurd h run_throw_ne_ok

theorem itemsAt_nil_eq_ok {position : Nat} {children : List Record}
    (h : (itemsAt document depth path position []).run count = .ok (children, left)) :
    children = [] := by
  rw [itemsAt] at h
  exact (run_pure_eq_ok.mp h).1.symm

theorem itemsAt_cons_eq_ok {position : Nat} {children : List Record} {item : Content}
    {rest : List Content}
    (h : (itemsAt document depth path position (item :: rest)).run count = .ok (children, left)) :
    ∃ record records middle, children = record :: records ∧
      (recordAt document depth (itemPath path position) item).run count = .ok (record, middle) ∧
      (itemsAt document depth path (position + 1) rest).run middle = .ok (records, left) := by
  rw [itemsAt] at h
  obtain ⟨record, middle, hRecord, h⟩ := run_bind_eq_ok.mp h
  obtain ⟨records, last, hRecords, h⟩ := run_bind_eq_ok.mp h
  obtain ⟨rfl, rfl⟩ := run_pure_eq_ok.mp h
  exact ⟨record, records, middle, rfl, hRecord, hRecords⟩

end

end Outline.Yaml
