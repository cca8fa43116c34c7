import ResourceRoutes.Proofs.Route.Prefix
set_option autoImplicit false

namespace ResourceRoutes

structure IsNormal (urlPrefix : String) : Prop where
  begins : urlPrefix = "" ∨ urlPrefix.toList.head? = some '/'
  ends : urlPrefix.toList.getLast? ≠ some '/'

def behindSlash (rest : List Char) : List Char :=
  if rest = [] ∨ rest.head? = some '/' then rest else '/' :: rest

theorem normalize_trimmed (urlPrefix : String) : normalizePrefix urlPrefix = String.ofList (behindSlash (trimmed urlPrefix)) := by
  have trimmed_eq : (urlPrefix.toList.reverse.dropWhile (· == '/')).reverse = trimmed urlPrefix := rfl
  rw [normalizePrefix, trimmed_eq]
  cases trimmed urlPrefix with
  | nil => rfl
  | cons c rest => by_cases slash : c = '/' <;> simp [behindSlash, slash]

theorem trim_replicated (cs : List Char) (count : Nat) :
    (cs ++ List.replicate count '/').rdropWhile (· == '/') = cs.rdropWhile (· == '/') := by
  induction count with
  | zero => rw [List.replicate_zero, List.append_nil]
  | succ count ih =>
    rw [List.replicate_succ', ← List.append_assoc, List.rdropWhile_concat_pos _ _ _ (by rfl), ih]

theorem trim_solid (cs : List Char) (solid : cs.getLast? ≠ some '/') : cs.rdropWhile (· == '/') = cs := by
  rw [List.rdropWhile_eq_self_iff]
  intro present slash
  rw [List.getLast?_eq_getLast_of_ne_nil present] at solid
  exact solid (congrArg some (beq_iff_eq.mp slash))

theorem trimmed_split (urlPrefix : String) :
    ∃ count, urlPrefix.toList = trimmed urlPrefix ++ List.replicate count '/' := by
  have slashes : ∀ c ∈ urlPrefix.toList.rtakeWhile (· == '/'), c = '/' := by
    intro c member
    exact beq_iff_eq.mp (List.mem_rtakeWhile_imp (p := fun c => c == '/') member)
  refine ⟨(urlPrefix.toList.rtakeWhile (· == '/')).length, ?_⟩
  rw [← List.eq_replicate_of_mem slashes]
  exact (List.rdropWhile_append_rtakeWhile ..).symm

theorem trimmed_ends (urlPrefix : String) : (trimmed urlPrefix).getLast? ≠ some '/' := by
  intro ends
  obtain ⟨front, split⟩ := List.getLast?_eq_some_iff.mp ends
  have again := trimmed_again urlPrefix
  rw [split, List.rdropWhile_concat_pos _ _ _ (by rfl)] at again
  have shorter := congrArg List.length again
  have bound := (List.rdropWhile_prefix (· == '/') front).length_le
  rw [List.length_append, List.length_singleton] at shorter
  omega

theorem normalize_append_slashes (urlPrefix : String) (count : Nat) :
    normalizePrefix (urlPrefix ++ String.ofList (List.replicate count '/')) = normalizePrefix urlPrefix := by
  have same : trimmed (urlPrefix ++ String.ofList (List.replicate count '/')) = trimmed urlPrefix := by
    rw [trimmed, String.toList_append, String.toList_ofList]
    exact trim_replicated urlPrefix.toList count
  rw [normalize_trimmed, normalize_trimmed urlPrefix, same]

theorem trimmed_slash_front (urlPrefix : String) : trimmed ("/" ++ urlPrefix) =
    if trimmed urlPrefix = [] then [] else '/' :: trimmed urlPrefix := by
  obtain ⟨count, split⟩ := trimmed_split urlPrefix
  have whole : ("/" ++ urlPrefix).toList = '/' :: trimmed urlPrefix ++ List.replicate count '/' := by
    rw [String.toList_append, split]
    rfl
  rw [trimmed, whole, trim_replicated]
  by_cases none : trimmed urlPrefix = []
  · rw [if_pos none, none]
    rfl
  · rw [if_neg none]
    apply trim_solid
    rw [List.getLast?_cons_of_ne_nil none]
    exact trimmed_ends urlPrefix

theorem normalize_slash_front (urlPrefix : String) (bare : urlPrefix.toList.head? ≠ some '/') :
    normalizePrefix ("/" ++ urlPrefix) = normalizePrefix urlPrefix := by
  rw [normalize_trimmed, normalize_trimmed urlPrefix, trimmed_slash_front]
  obtain ⟨count, split⟩ := trimmed_split urlPrefix
  cases front : trimmed urlPrefix with
  | nil => rfl
  | cons c rest =>
    have other : c ≠ '/' := by
      rintro rfl
      rw [split, front] at bare
      exact bare rfl
    simp [behindSlash, other]

theorem normalize_normal (urlPrefix : String) : IsNormal (normalizePrefix urlPrefix) := by
  have solid := trimmed_ends urlPrefix
  have form := normalized_prefix urlPrefix
  generalize normalizePrefix urlPrefix = normalized at form
  obtain ⟨cs, rfl⟩ : ∃ cs, normalized = String.ofList cs := ⟨normalized.toList, String.ofList_toList.symm⟩
  rw [String.toList_ofList] at form
  cases form with
  | nothing => exact ⟨.inl rfl, by rw [String.toList_ofList]; nofun⟩
  | kept c rest begins =>
    refine ⟨.inr (by rw [String.toList_ofList]; rfl), ?_⟩
    rw [String.toList_ofList, ← begins]
    exact solid
  | completed c rest begins =>
    refine ⟨.inr (by rw [String.toList_ofList]; rfl), ?_⟩
    rw [String.toList_ofList, List.getLast?_cons_of_ne_nil (List.cons_ne_nil c rest), ← begins]
    exact solid

theorem normalize_fixes_iff (urlPrefix : String) : normalizePrefix urlPrefix = urlPrefix ↔ IsNormal urlPrefix := by
  constructor
  · intro fixed
    have normal := normalize_normal urlPrefix
    rwa [fixed] at normal
  · rintro ⟨begins, ends⟩
    have kept : trimmed urlPrefix = urlPrefix.toList := trim_solid urlPrefix.toList ends
    have settled : urlPrefix.toList = [] ∨ urlPrefix.toList.head? = some '/' :=
      begins.imp_left fun empty => by rw [empty]; rfl
    rw [normalize_trimmed, kept, behindSlash, if_pos settled, String.ofList_toList]

theorem plans_under_slashes (reports : List Report) (urlPrefix : String) :
    (∀ count, planRoutes reports (urlPrefix ++ String.ofList (List.replicate count '/')) = planRoutes reports urlPrefix) ∧
      (urlPrefix.toList.head? ≠ some '/' → planRoutes reports ("/" ++ urlPrefix) = planRoutes reports urlPrefix) ∧
      IsNormal (normalizePrefix urlPrefix) ∧
      (normalizePrefix urlPrefix = urlPrefix ↔ IsNormal urlPrefix) ∧
      normalizePrefix (normalizePrefix urlPrefix) = normalizePrefix urlPrefix := by
  have normal := normalize_normal urlPrefix
  refine ⟨fun count => ?_, fun bare => ?_, normal, normalize_fixes_iff urlPrefix, (normalize_fixes_iff _).mpr normal⟩
  · rw [planRoutes, normalize_append_slashes, planRoutes]
  · rw [planRoutes, normalize_slash_front urlPrefix bare, planRoutes]

example : normalizePrefix "v1/api//" = "/v1/api" := by decide

end ResourceRoutes
