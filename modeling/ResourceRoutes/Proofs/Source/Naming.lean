import ResourceRoutes.Proofs.Text.Casing
import ResourceRoutes.Source.Naming
set_option autoImplicit false

namespace ResourceRoutes.Source

theorem camel_from_word (begins : Bool) (front back : List Char) :
    camelFrom begins (front ++ '_' :: back) = camelFrom begins front ++ camelFrom true back := by
  induction front generalizing begins with
  | nil => rw [List.nil_append, camelFrom, camelFrom, if_pos rfl, List.nil_append]
  | cons c rest ih =>
    rw [List.cons_append, camelFrom, camelFrom]
    by_cases gap : c = '_'
    · rw [if_pos gap, if_pos gap, ih]
    · rw [if_neg gap, if_neg gap, ih, List.append_assoc]

theorem camel_from_no_underscore (begins : Bool) (cs : List Char) : '_' ∉ camelFrom begins cs := by
  induction cs generalizing begins with
  | nil => exact List.not_mem_nil
  | cons c rest ih =>
    rw [camelFrom]
    by_cases gap : c = '_'
    · rw [if_pos gap]
      exact ih true
    · rw [if_neg gap, List.mem_append, not_or]
      refine ⟨?_, ih false⟩
      cases begins with
      | true => exact Text.upper_no_underscore c gap
      | false => exact List.not_mem_cons_of_ne_of_not_mem (Ne.symm gap) List.not_mem_nil

theorem camel_from_inside (cs : List Char) (solid : '_' ∉ cs) : camelFrom false cs = cs := by
  induction cs with
  | nil => rfl
  | cons c rest ih =>
    obtain ⟨apart, rest_solid⟩ := List.ne_and_not_mem_of_not_mem_cons solid
    rw [camelFrom, if_neg (Ne.symm apart), ih rest_solid]
    rfl

theorem camel_case_begins (cs : List Char) :
    toCamelCase cs = [] ∨ ∃ first rest, toCamelCase cs = first :: rest ∧ Text.upperChar first = [first] := by
  unfold toCamelCase
  induction cs with
  | nil => exact .inl rfl
  | cons c rest ih =>
    rw [camelFrom]
    by_cases gap : c = '_'
    · rw [if_pos gap]
      exact ih
    · rw [if_neg gap]
      obtain ⟨first, more, capital⟩ := List.exists_cons_of_ne_nil (Text.upper_present c)
      have settled := Text.upper_settled c first (capital ▸ List.mem_cons_self ..)
      refine .inr ⟨first, more ++ camelFrom false rest, ?_, settled⟩
      rw [if_pos rfl, capital]
      rfl

theorem camel_case_settled (cs : List Char) : toCamelCase (toCamelCase cs) = toCamelCase cs := by
  have solid := camel_from_no_underscore true cs
  obtain empty | ⟨first, rest, begins, capital⟩ := camel_case_begins cs
  · rw [empty]
    rfl
  · rw [← toCamelCase, begins] at solid
    obtain ⟨apart, rest_solid⟩ := List.ne_and_not_mem_of_not_mem_cons solid
    rw [begins, toCamelCase, camelFrom, if_neg (Ne.symm apart), if_pos rfl, capital, camel_from_inside rest rest_solid]
    rfl

theorem camel_case_laws :
    (∀ cs, '_' ∉ toCamelCase cs) ∧ (∀ cs, toCamelCase (toCamelCase cs) = toCamelCase cs) ∧
      ∀ front back, toCamelCase (front ++ '_' :: back) = toCamelCase front ++ toCamelCase back :=
  ⟨camel_from_no_underscore true, camel_case_settled, camel_from_word true⟩

end ResourceRoutes.Source
