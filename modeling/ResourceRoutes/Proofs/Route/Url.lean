import ResourceRoutes.Route.Path
set_option autoImplicit false

namespace ResourceRoutes

namespace Text

theorem replace_from_passed (old new passed rest : List Char) :
    replaceFrom old new passed.length (passed ++ rest) = replaceFrom old new 0 rest := by
  induction passed with
  | nil => rfl
  | cons c passed ih => simpa [replaceFrom] using ih

theorem replace_front (old new rest : List Char) (present : old ≠ []) :
    replace old new (old ++ rest) = new ++ replace old new rest := by
  cases old with
  | nil => exact absurd rfl present
  | cons c old =>
    have occurs : (c :: old).isPrefixOf (c :: (old ++ rest)) = true := by
      rw [List.isPrefixOf_iff_prefix]
      exact ⟨rest, rfl⟩
    rw [replace, List.cons_append, replaceFrom, if_pos occurs]
    exact congrArg (new ++ ·) (replace_from_passed (c :: old) new old rest)

end Text

namespace HandlerKind

theorem replace_ending (kind : HandlerKind) (new : List Char) :
    Text.replace placeHolder.toList new kind.pathEnding.toList = kind.pathEnding.toList := by
  cases kind <;> rfl

theorem url_eq (kind : HandlerKind) (structName : String) :
    kind.url structName = basePath structName ++ kind.pathEnding := by
  rw [url, urlTemplate, String.toList_append, Text.replace_front _ _ _ (by decide), replace_ending]
  simp [String.ofList_append]

theorem same_kind (a b : HandlerKind) (verb : a.method = b.method) (ending : a.pathEnding = b.pathEnding) :
    a = b := by
  cases a <;> cases b <;> revert verb ending <;> decide

theorem url_injective (a b : HandlerKind) (leading structName : String) (verb : a.method = b.method)
    (path : leading ++ a.url structName = leading ++ b.url structName) : a = b := by
  apply same_kind a b verb
  simpa [url_eq] using path

end HandlerKind

end ResourceRoutes
