import ResourceRoutes.Text.Pieces
set_option autoImplicit false

namespace ResourceRoutes.Text

variable (separator : Char)

theorem separator_not_in_pieces (cs piece : List Char) (listed : piece ∈ pieces separator cs) : separator ∉ piece := by
  induction cs generalizing piece with
  | nil =>
    rw [List.mem_singleton.mp listed]
    exact List.not_mem_nil
  | cons c rest ih =>
    by_cases cut : c = separator
    · rw [pieces, if_pos cut] at listed
      obtain rfl | later := List.mem_cons.mp listed
      · exact List.not_mem_nil
      · exact ih piece later
    · rw [pieces, if_neg cut] at listed
      cases others : pieces separator rest with
      | nil => exact absurd others (pieces_ne_nil separator rest)
      | cons first more =>
        rw [others] at ih listed
        obtain rfl | later := List.mem_cons.mp listed
        · exact List.not_mem_cons_of_ne_of_not_mem (Ne.symm cut) (ih first (List.mem_cons_self ..))
        · exact ih piece (List.mem_cons_of_mem _ later)

theorem pieces_solid (cs : List Char) (solid : separator ∉ cs) : pieces separator cs = [cs] := by
  induction cs with
  | nil => rfl
  | cons c rest ih =>
    obtain ⟨apart, rest_solid⟩ := List.ne_and_not_mem_of_not_mem_cons solid
    rw [pieces, if_neg (Ne.symm apart), ih rest_solid]

theorem pieces_append (front back : List Char) (solid : separator ∉ back) :
    ∃ earlier last, pieces separator front = earlier ++ [last] ∧
      pieces separator (front ++ back) = earlier ++ [last ++ back] := by
  induction front with
  | nil => exact ⟨[], [], rfl, pieces_solid separator back solid⟩
  | cons c rest ih =>
    obtain ⟨earlier, last, alone, whole⟩ := ih
    rw [List.cons_append]
    by_cases cut : c = separator
    · refine ⟨[] :: earlier, last, ?_, ?_⟩
      · rw [pieces, if_pos cut, alone, List.cons_append]
      · rw [pieces, if_pos cut, whole, List.cons_append]
    · rw [pieces, if_neg cut, pieces, if_neg cut, alone, whole]
      cases earlier with
      | nil => exact ⟨[], c :: last, rfl, rfl⟩
      | cons first others => exact ⟨(c :: first) :: others, last, rfl, rfl⟩

end ResourceRoutes.Text
