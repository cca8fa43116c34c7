import Mathlib.Data.List.DropRight
import ResourceRoutes.Proofs.Route.Planned
set_option autoImplicit false

/- Slashes at the front of a prefix are kept, so a path can begin with several of them. -/
namespace ResourceRoutes

def OnlySlashes (urlPrefix : String) : Prop := ∀ c ∈ urlPrefix.toList, c = '/'

def trimmed (urlPrefix : String) : List Char := urlPrefix.toList.rdropWhile (· == '/')

theorem trimmed_nil_iff (urlPrefix : String) : trimmed urlPrefix = [] ↔ OnlySlashes urlPrefix := by
  rw [trimmed, List.rdropWhile_eq_nil_iff]
  simp only [beq_iff_eq, OnlySlashes]

theorem trimmed_front (urlPrefix : String) : trimmed urlPrefix <+: urlPrefix.toList :=
  List.rdropWhile_prefix _ _

theorem trimmed_again (urlPrefix : String) : (trimmed urlPrefix).rdropWhile (· == '/') = trimmed urlPrefix :=
  List.rdropWhile_idempotent _ _

inductive Normalized (urlPrefix : String) : List Char → Prop where
  | nothing (slashes : OnlySlashes urlPrefix) : Normalized urlPrefix []
  | kept (c : Char) (rest : List Char) (begins : trimmed urlPrefix = '/' :: c :: rest) :
      Normalized urlPrefix ('/' :: c :: rest)
  | completed (c : Char) (rest : List Char) (begins : trimmed urlPrefix = c :: rest) (bare : c ≠ '/') :
      Normalized urlPrefix ('/' :: c :: rest)

theorem normalized_prefix (urlPrefix : String) : Normalized urlPrefix (normalizePrefix urlPrefix).toList := by
  have trimmed_eq : (urlPrefix.toList.reverse.dropWhile (· == '/')).reverse = trimmed urlPrefix := rfl
  rw [normalizePrefix, trimmed_eq]
  split
  · rename_i none
    exact .nothing ((trimmed_nil_iff urlPrefix).mp none)
  · rename_i rest begins
    rw [begins, String.toList_ofList]
    cases rest with
    | nil =>
      have again := trimmed_again urlPrefix
      rw [begins] at again
      exact absurd again (by decide)
    | cons c rest => exact .kept c rest begins
  · rename_i some slashed
    rw [String.toList_ofList]
    cases begins : trimmed urlPrefix with
    | nil => exact absurd begins some
    | cons c rest => exact .completed c rest begins fun slash => slashed rest (by rw [begins, slash])

theorem normalized_slashes (urlPrefix : String) (slashes : OnlySlashes urlPrefix) :
    (normalizePrefix urlPrefix).toList = [] := by
  have none := (trimmed_nil_iff urlPrefix).mpr slashes
  have form := normalized_prefix urlPrefix
  generalize (normalizePrefix urlPrefix).toList = normalized at form ⊢
  cases form with
  | nothing _ => rfl
  | kept c rest begins =>
    rw [none] at begins
    cases begins
  | completed c rest begins _ =>
    rw [none] at begins
    cases begins

theorem normalized_begins (urlPrefix : String) (more : ¬ OnlySlashes urlPrefix) :
    ∃ c rest, (normalizePrefix urlPrefix).toList = '/' :: c :: rest ∧
      (c = '/' ↔ ['/', '/'] <+: urlPrefix.toList) := by
  have form := normalized_prefix urlPrefix
  generalize (normalizePrefix urlPrefix).toList = normalized at form
  obtain ⟨dropped, whole⟩ := trimmed_front urlPrefix
  cases form with
  | nothing slashes => exact absurd slashes more
  | kept c rest begins =>
    refine ⟨c, rest, rfl, ?_⟩
    rw [← whole, begins]
    simp [eq_comm]
  | completed c rest begins bare =>
    refine ⟨c, rest, rfl, ?_⟩
    rw [← whole, begins]
    simp [bare, Ne.symm bare]

def OneLeadingSlash (path : String) : Prop := path.toList.head? = some '/' ∧ path.toList[1]? ≠ some '/'

instance (path : String) : Decidable (OneLeadingSlash path) := inferInstanceAs (Decidable (_ ∧ _))

theorem url_begins (kind : HandlerKind) (structName : String) :
    (kind.url structName).toList.head? = some '/' ↔
      (basePath structName).toList.head? = some '/' ∨ basePath structName = "" ∧ kind.isSingle = true := by
  rw [HandlerKind.url_eq, String.toList_append]
  cases base : (basePath structName).toList with
  | nil =>
    have empty : basePath structName = "" := String.toList_eq_nil_iff.mp base
    cases single : kind.isSingle <;> simp [HandlerKind.pathEnding, single, empty]
  | cons c rest =>
    have present : basePath structName ≠ "" := by
      intro empty
      rw [empty] at base
      cases base
    simp [present]

theorem planned_path (reports : List Report) (urlPrefix : String) (plans : List ResourcePlan)
    (planned : planRoutes reports urlPrefix = .ok plans) (plan : ResourcePlan) (listed : plan ∈ plans)
    (route : PlannedRoute) (routed : route ∈ plan.routes) :
    ∃ structName, plan.base = basePath structName ∧
      route.path = normalizePrefix urlPrefix ++ "/" ++ route.handler.url structName := by
  have stand := (plan_routes_iff reports urlPrefix plans).mp planned
  obtain ⟨report, -, stands⟩ := paired_source stand plan listed
  obtain ⟨record, -, route_stands⟩ := paired_source stands.routes_stand route routed
  exact ⟨report.structName, stands.base_eq, route_stands.path_eq⟩

theorem planned_path_begins (reports : List Report) (urlPrefix : String) (plans : List ResourcePlan)
    (planned : planRoutes reports urlPrefix = .ok plans) (plan : ResourcePlan) (listed : plan ∈ plans)
    (route : PlannedRoute) (routed : route ∈ plan.routes) :
    route.path.toList.head? = some '/' ∧
      (OneLeadingSlash route.path ↔
        (OnlySlashes urlPrefix →
          plan.base.toList.head? ≠ some '/' ∧ (plan.base = "" → route.handler.isSingle = false)) ∧
        (¬ OnlySlashes urlPrefix → ¬ ['/', '/'] <+: urlPrefix.toList)) := by
  obtain ⟨structName, base_eq, path_eq⟩ := planned_path reports urlPrefix plans planned plan listed route routed
  have path : route.path.toList =
      (normalizePrefix urlPrefix).toList ++ '/' :: (route.handler.url structName).toList := by
    rw [path_eq, String.toList_append, String.toList_append, List.append_assoc]
    rfl
  by_cases slashes : OnlySlashes urlPrefix
  · rw [normalized_slashes urlPrefix slashes, List.nil_append] at path
    have first : OneLeadingSlash route.path ↔ (route.handler.url structName).toList.head? ≠ some '/' := by
      rw [OneLeadingSlash, path]
      simp [List.head?_eq_getElem?]
    refine ⟨by rw [path]; rfl, ?_⟩
    rw [first, Ne, url_begins, ← base_eq]
    simp [slashes]
  · obtain ⟨c, rest, begins, doubled⟩ := normalized_begins urlPrefix slashes
    rw [begins] at path
    have second : OneLeadingSlash route.path ↔ c ≠ '/' := by
      rw [OneLeadingSlash, path]
      simp
    refine ⟨by rw [path]; rfl, ?_⟩
    rw [second, Ne, doubled]
    simp [slashes]

theorem lone_slash_path :
    planRoutes [⟨"Resource", [⟨"GetMany", 2⟩], false, false, false, []⟩] "//" =
        .ok [⟨"Resource", "", [⟨.getMany, .get, "/", 2, []⟩]⟩] ∧
      "/".toList.head? = some '/' ∧
      (OneLeadingSlash "/" ↔
        (OnlySlashes "//" → "".toList.head? ≠ some '/' ∧ ("" = "" → HandlerKind.getMany.isSingle = false)) ∧
        (¬ OnlySlashes "//" → ¬ ['/', '/'] <+: "//".toList)) := by
  have planned : planRoutes [⟨"Resource", [⟨"GetMany", 2⟩], false, false, false, []⟩] "//" =
      .ok [⟨"Resource", "", [⟨.getMany, .get, "/", 2, []⟩]⟩] := by decide
  exact ⟨planned, planned_path_begins _ "//" _ planned ⟨"Resource", "", [⟨.getMany, .get, "/", 2, []⟩]⟩
    (List.mem_singleton_self _) ⟨.getMany, .get, "/", 2, []⟩ (List.mem_singleton_self _)⟩

theorem paths_with_two_leading_slashes :
    (planRoutes [⟨"Todos", [⟨"GetMany", 2⟩], false, false, false, []⟩] "//api" =
        .ok [⟨"Todos", "todos", [⟨.getMany, .get, "//api/todos", 2, []⟩]⟩] ∧
      ¬ OneLeadingSlash "//api/todos") ∧
    planRoutes [⟨"Resource", [⟨"GetOne", 2⟩], false, false, false, []⟩] "/" =
        .ok [⟨"Resource", "", [⟨.getOne, .get, "//:id", 2, []⟩]⟩] ∧
      ¬ OneLeadingSlash "//:id" := by decide

end ResourceRoutes
