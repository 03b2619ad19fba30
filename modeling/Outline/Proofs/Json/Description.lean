import Outline.Proofs.Json.Complete
import Outline.Proofs.Json.Sound

/-!
# The language of descriptions

A text is read as a record exactly if it is a description of that record.

- `Record.ofJson_eq_ok_iff` — what is read, in the words of the grammar
- `Record.ofJson_within` — a record that is nested too deeply is malformed
-/

namespace Outline.Record

open Json

/-- What is read is a description of what comes of it. -/
theorem ofJson_eq_ok {source : String} {record : Record}
    (h : Record.ofJson source = .ok record) : DescriptionText record source.toList := by
  unfold Record.ofJson at h
  split at h
  · cases h
  · rename_i read rest hRead
    split at h
    · rename_i hBlank
      cases h
      obtain ⟨before, text, hBefore, hText, hSource⟩ := recordAt_eq_ok hRead
      rw [hSource]
      exact .padded hBefore hText (skipBlank_eq_nil_iff.mp hBlank)
    · cases h

/-- A record with blanks around it is read, or there is no room for it and the text is
    malformed. -/
theorem ofJson_within {needed : Nat} {record : Record} {source : String}
    {before text after : List Char} (hBefore : Blanks before)
    (hText : RecordText needed record text) (hAfter : Blanks after)
    (hSource : source.toList = before ++ (text ++ after)) :
    Within maxOpen needed record (Record.ofJson source) := by
  unfold Record.ofJson
  rcases recordAt_of_begins maxOpen ⟨before, text, hBefore, hText, hSource⟩ with
    hRead | ⟨hRoom, hRead⟩
  · left
    simp only [hRead, skipBlank_eq_nil_iff.mpr hAfter]
  · right
    rw [hRead]
    exact ⟨hRoom, rfl⟩

/-- **The reader accepts exactly the descriptions.** A text is read as a record if and only
    if the grammar describes that record by it. -/
theorem ofJson_eq_ok_iff (source : String) (record : Record) :
    Record.ofJson source = .ok record ↔ DescriptionText record source.toList := by
  constructor
  · exact ofJson_eq_ok
  · intro h
    generalize hSource : source.toList = chars at h
    cases h with
    | padded hBefore hText hAfter =>
      exact (ofJson_within hBefore hText hAfter hSource).eq_ok (Nat.le_refl _)

end Outline.Record
