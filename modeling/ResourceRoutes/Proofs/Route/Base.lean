import ResourceRoutes.Proofs.Text.Casing
import ResourceRoutes.Route.Path
set_option autoImplicit false

namespace ResourceRoutes

theorem drop_ending_behind (ending front : List Char) : dropEnding ending (front ++ ending) = front := by
  rw [dropEnding, if_pos (List.isSuffixOf_iff_suffix.mpr (List.suffix_append front ending))]
  simp

theorem drop_ending_absent (ending cs : List Char) (absent : ¬ ending <:+ cs) : dropEnding ending cs = cs :=
  if_neg fun ends => absent (List.isSuffixOf_iff_suffix.mp ends)

theorem base_path_behind (front : String) : basePath (front ++ "Resource") = Text.lowercase front := by
  rw [basePath, String.toList_append, drop_ending_behind, String.ofList_toList]

theorem lowercase_no_ending (s : String) : ¬ "Resource".toList <:+ (Text.lowercase s).toList := by
  intro ends
  have capital : 'R' ∈ (Text.lowercase s).toList := ends.subset (by decide)
  have moved : Text.lowerChar 'R' ≠ ['R'] := by decide +kernel
  exact moved (Text.lowercase_chars s 'R' capital).2

theorem base_path_settled (structName : String) : basePath (basePath structName) = basePath structName := by
  have kept : dropEnding "Resource".toList (basePath structName).toList = (basePath structName).toList :=
    drop_ending_absent _ _ (lowercase_no_ending _)
  rw [basePath, kept, String.ofList_toList]
  exact Text.lowercase_settled _

theorem base_path_laws (structName front : String) :
    basePath (basePath structName) = basePath structName ∧ basePath (front ++ "Resource") = Text.lowercase front ∧
      ¬ "Resource".toList <:+ (basePath structName).toList :=
  ⟨base_path_settled structName, base_path_behind front, lowercase_no_ending _⟩

end ResourceRoutes
