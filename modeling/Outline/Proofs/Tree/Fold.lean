import Outline.Proofs.Tree.Basic
import Outline.Tree.Visitor

/-!
# Folding steps over lists

Visits are recursive, while the order in which they reach the nodes is a flat list. This
module has what ties the two together: the left fold of a step over a list with a stop at
the first failure, and the rules for folds over lists put together.

- `Step.fold` — the left fold of a step that may fail
- `Step.fold_append` — a fold over two lists is one fold after the other
- `Step.fold_project` — a fold seen through a view of its state is a fold on the view
-/

namespace Outline

/-! ## §1 Folds that may fail -/

namespace Step

variable {σ τ ε δ α : Type}

/-- Goes on with the data of a step that succeeded, from the state it left. -/
def andThen (first : Except ε δ × σ) (next : δ → Step σ ε δ) : Except ε δ × σ :=
  match first with
  | (.ok data, state) => next data state
  | (.error error, state) => (.error error, state)

/-- Runs a step for each element of a list from left to right, feeding the data returned by
    one into the next, and stops at the first failure. -/
def fold (step : α → δ → Step σ ε δ) : List α → δ → Step σ ε δ
  | [], data, state => (.ok data, state)
  | first :: rest, data, state => andThen (step first data state) (fold step rest)

@[simp] theorem andThen_ok (data : δ) (state : σ) (next : δ → Step σ ε δ) :
    andThen (.ok data, state) next = next data state := rfl

@[simp] theorem andThen_error (error : ε) (state : σ) (next : δ → Step σ ε δ) :
    andThen (.error error, state) next = (.error error, state) := rfl

/-- Going on is associative. -/
theorem andThen_assoc (first : Except ε δ × σ) (next last : δ → Step σ ε δ) :
    andThen (andThen first next) last = andThen first fun data state =>
      andThen (next data state) last := by
  obtain ⟨data | error, state⟩ := first <;> rfl

@[simp] theorem fold_nil (step : α → δ → Step σ ε δ) (data : δ) (state : σ) :
    fold step [] data state = (.ok data, state) := rfl

@[simp] theorem fold_cons (step : α → δ → Step σ ε δ) (first : α) (rest : List α) (data : δ)
    (state : σ) :
    fold step (first :: rest) data state = andThen (step first data state) (fold step rest) := rfl

/-- A fold over two lists is the fold over the second after the fold over the first. -/
theorem fold_append (step : α → δ → Step σ ε δ) (first second : List α) (data : δ) (state : σ) :
    fold step (first ++ second) data state =
      andThen (fold step first data state) (fold step second) := by
  induction first generalizing data state with
  | nil => rfl
  | cons head rest ih =>
    rw [List.cons_append, fold_cons, fold_cons, andThen_assoc]
    congr
    funext data state
    exact ih data state

/-- If one step acts on a view of the state as another acts on the state, then so do their
    folds. -/
theorem fold_project (view : σ → τ) {large : α → δ → Step σ ε δ} {small : α → δ → Step τ ε δ}
    (h : ∀ element data state, small element data (view state) =
      ((large element data state).1, view (large element data state).2))
    (elements : List α) (data : δ) (state : σ) :
    fold small elements data (view state) =
      ((fold large elements data state).1, view (fold large elements data state).2) := by
  induction elements generalizing data state with
  | nil => rfl
  | cons head rest ih =>
    rw [fold_cons, fold_cons, h]
    -- both folds stop at a failure, and else go on with the same data
    obtain ⟨result | result, left⟩ := large head data state
    · rfl
    · exact ih result left

end Step

/-! ## §2 Visits -/

namespace Visitor

variable {σ ε δ : Type}

/-- Visiting nodes one after the other is the fold of visiting one. -/
theorem visitEach_eq_fold (visitor : Visitor σ ε δ) (nodes : List Node) (data : δ) (state : σ) :
    visitor.visitEach nodes data state = Step.fold visitor.visit nodes data state := by
  induction nodes generalizing data state with
  | nil => rw [visitEach]; rfl
  | cons first rest ih =>
    rw [visitEach, Step.fold_cons]
    -- the loop looks at the result of the first visit as `andThen` does
    obtain ⟨result | result, left⟩ := visitor.visit first data state
    · rfl
    · exact ih result left

end Visitor

end Outline
