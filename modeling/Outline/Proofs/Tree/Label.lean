import Outline.Proofs.Number.Digits
import Outline.Tree.Node

/-!
# Labels of kinds

The label of a specialized kind tells the kind. Any other kind may have the label of a
specialized one, but then the two differ in their constructor.

- `Kind.label_injective_of_isSpecialized` — labels of specialized kinds
- `Kind.eq_of_ctorIdx_eq` — labels of kinds with the same constructor
-/

namespace Outline.Kind

theorem label_injective_of_isSpecialized {a b : Kind} (ha : a.isSpecialized = true)
    (hb : b.isSpecialized = true) (h : a.label = b.label) : a = b := by
  rw [← String.toList_inj] at h
  cases a with
  | other name => cases ha
  | start | add | multiply =>
    cases b with
    | other name => cases hb
    | start | add | multiply | identifier | integer => simp [label, Kind.name] at h ⊢
  | identifier name =>
    cases b with
    | other name => cases hb
    | start | add | multiply | integer => simp [label, Kind.name] at h
    | identifier other =>
      have hName : name.toList = other.toList := by simpa [label] using h
      rw [String.toList_inj.mp hName]
  | integer value =>
    cases b with
    | other name => cases hb
    | start | add | multiply | identifier => simp [label, Kind.name] at h
    | integer other =>
      have hDigits : (toString value.toInt).toList = (toString other.toInt).toList := by
        simpa [label] using h
      have hValue := Number.toString_int_injective (String.toList_inj.mp hDigits)
      rw [Int64.toInt_inj.mp hValue]

/-- Kinds that are made by the same constructor and have the same label are the same. -/
theorem eq_of_ctorIdx_eq {a b : Kind} (hIdx : a.ctorIdx = b.ctorIdx) (hLabel : a.label = b.label) :
    a = b := by
  cases a with
  | other name =>
    cases b with
    | other otherName => exact congrArg other hLabel
    | start | add | multiply | identifier | integer => cases hIdx
  | start | add | multiply | identifier | integer =>
    cases b with
    | other otherName => cases hIdx
    | start | add | multiply | identifier | integer =>
      exact label_injective_of_isSpecialized rfl rfl hLabel

end Outline.Kind
