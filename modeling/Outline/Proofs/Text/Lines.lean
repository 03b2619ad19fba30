/-!
# Texts made of lines

A text in which every line is ended by a line break tells its lines, if no line has a line break
of its own.
-/

namespace Outline

/-- A line ends at the first line break. -/
theorem append_lineBreak_inj {a b x y : List Char} (ha : '\n' ∉ a) (hb : '\n' ∉ b)
    (h : a ++ '\n' :: x = b ++ '\n' :: y) : a = b ∧ x = y := by
  induction a generalizing b with
  | nil =>
    cases b with
    | nil => exact ⟨rfl, (List.cons.inj h).2⟩
    | cons c rest =>
      obtain ⟨rfl, -⟩ := List.cons.inj h
      simp at hb
  | cons c rest ih =>
    cases b with
    | nil =>
      obtain ⟨rfl, -⟩ := List.cons.inj h
      simp at ha
    | cons d others =>
      obtain ⟨hc, hRest⟩ := List.cons.inj h
      obtain ⟨hSame, hBehind⟩ := ih (fun hMem => ha (List.mem_cons_of_mem _ hMem))
        (fun hMem => hb (List.mem_cons_of_mem _ hMem)) hRest
      exact ⟨by rw [hc, hSame], hBehind⟩

theorem eq_of_join_lines_eq {lines others : List String}
    (hLines : ∀ line ∈ lines, '\n' ∉ line.toList)
    (hOthers : ∀ line ∈ others, '\n' ∉ line.toList)
    (h : String.join (lines.map (· ++ "\n")) = String.join (others.map (· ++ "\n"))) :
    lines = others := by
  rw [← String.toList_inj] at h
  induction lines generalizing others with
  | nil =>
    cases others with
    | nil => rfl
    | cons other rest => simp at h
  | cons line rest ih =>
    cases others with
    | nil => simp at h
    | cons other otherRest =>
      rw [List.forall_mem_cons] at hLines hOthers
      have hChars : line.toList ++ '\n' :: (String.join (rest.map (· ++ "\n"))).toList =
          other.toList ++ '\n' :: (String.join (otherRest.map (· ++ "\n"))).toList := by
        simpa using h
      obtain ⟨hLine, hRest⟩ := append_lineBreak_inj hLines.1 hOthers.1 hChars
      rw [String.toList_inj.mp hLine, ih hLines.2 hOthers.2 hRest]

end Outline
