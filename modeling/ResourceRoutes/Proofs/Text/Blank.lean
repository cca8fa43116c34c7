import Mathlib.Data.List.DropRight
import ResourceRoutes.Text.Blank
set_option autoImplicit false

namespace ResourceRoutes.Text

theorem trim_split (cs : List Char) : ∃ before after, cs = before ++ trim cs ++ after ∧
    (∀ c ∈ before, isBlank c = true) ∧ ∀ c ∈ after, isBlank c = true := by
  refine ⟨cs.takeWhile isBlank, (trimLeft cs).rtakeWhile isBlank, ?_, fun c member => List.mem_takeWhile_imp member,
    fun c member => List.mem_rtakeWhile_imp member⟩
  have right : trim cs ++ (trimLeft cs).rtakeWhile isBlank = trimLeft cs := List.rdropWhile_append_rtakeWhile ..
  rw [List.append_assoc, right]
  exact (List.takeWhile_append_dropWhile ..).symm

theorem trim_surrounded (before core after : List Char) (blank_before : ∀ c ∈ before, isBlank c = true)
    (blank_after : ∀ c ∈ after, isBlank c = true) (first : ∀ c ∈ core.head?, isBlank c = false)
    (last : ∀ c ∈ core.getLast?, isBlank c = false) (present : core ≠ []) : trim (before ++ core ++ after) = core := by
  have left : trimLeft (before ++ core ++ after) = core ++ after := by
    rw [trimLeft, List.append_assoc, List.dropWhile_append_of_pos blank_before]
    cases core with
    | nil => exact absurd rfl present
    | cons c core => rw [List.cons_append, List.dropWhile_cons_of_neg (by rw [first c rfl]; decide)]
  have reversed : ∀ c ∈ after.reverse, isBlank c = true := fun c member => blank_after c (List.mem_reverse.mp member)
  rw [trim, left, trimRight, List.reverse_append, List.dropWhile_append_of_pos reversed]
  obtain ⟨front, c, rfl⟩ := (List.eq_nil_or_concat' core).resolve_left present
  rw [List.reverse_append, List.reverse_singleton, List.singleton_append,
    List.dropWhile_cons_of_neg (by rw [last c List.getLast?_concat]; decide), List.reverse_cons, List.reverse_reverse]

end ResourceRoutes.Text
