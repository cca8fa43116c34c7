import ResourceRoutes.Proofs.Route.Url
import ResourceRoutes.Proofs.Traversal
import ResourceRoutes.Route.Plan
set_option autoImplicit false

namespace ResourceRoutes

theorem of_name_iff (name : String) (kind : HandlerKind) : HandlerKind.ofName name = .ok kind ↔ kind.name = name := by
  constructor
  · intro named
    rw [HandlerKind.ofName] at named
    split at named
    · rename_i other found
      cases named
      simpa using List.find?_some found
    · cases named
  · rintro rfl
    exact HandlerKind.ofName_name kind

structure PlannedRoute.Stands (base : String) (report : Report) (record : HandlerRecord) (route : PlannedRoute) :
    Prop where
  name_eq : route.handler.name = record.name
  method_eq : route.method = route.handler.method
  path_eq : route.path = base ++ "/" ++ route.handler.url report.structName
  params_eq : route.params = record.params
  hooks_eq : route.hooks = route.handler.hookChain report

structure ResourcePlan.Stands (base : String) (report : Report) (plan : ResourcePlan) : Prop where
  resource_eq : plan.resource = report.structName
  base_eq : plan.base = basePath report.structName
  routes_stand : List.Forall₂ (PlannedRoute.Stands base report) report.handlers plan.routes

theorem plan_route_iff (report : Report) (base : String) (record : HandlerRecord) (route : PlannedRoute) :
    planRoute report base record = .ok route ↔ route.Stands base report record := by
  constructor
  · intro planned
    rw [planRoute] at planned
    cases named : HandlerKind.ofName record.name with
    | error error =>
      rw [named] at planned
      cases planned
    | ok kind =>
      rw [named] at planned
      cases planned
      exact ⟨(of_name_iff _ _).mp named, rfl, rfl, rfl, rfl⟩
  · rintro ⟨name_eq, method_eq, path_eq, params_eq, hooks_eq⟩
    obtain ⟨handler, method, path, params, hooks⟩ := route
    obtain rfl : method = handler.method := method_eq
    obtain rfl : path = base ++ "/" ++ handler.url report.structName := path_eq
    obtain rfl : params = record.params := params_eq
    obtain rfl : hooks = handler.hookChain report := hooks_eq
    rw [planRoute, (of_name_iff _ _).mpr name_eq]
    rfl

theorem plan_resource_iff (base : String) (report : Report) (plan : ResourcePlan) :
    planResource base report = .ok plan ↔ plan.Stands base report := by
  have routed (routes : List PlannedRoute) : report.handlers.mapM (planRoute report base) = .ok routes ↔
      List.Forall₂ (PlannedRoute.Stands base report) report.handlers routes := by
    simp only [mapM_ok_iff, plan_route_iff]
  constructor
  · intro planned
    rw [planResource] at planned
    cases read : report.handlers.mapM (planRoute report base) with
    | error error =>
      rw [read] at planned
      cases planned
    | ok routes =>
      rw [read] at planned
      cases planned
      exact ⟨rfl, rfl, (routed routes).mp read⟩
  · rintro ⟨resource_eq, base_eq, routes_stand⟩
    obtain ⟨resource, path, routes⟩ := plan
    obtain rfl : resource = report.structName := resource_eq
    obtain rfl : path = basePath report.structName := base_eq
    rw [planResource, (routed routes).mpr routes_stand]
    rfl

theorem plan_routes_iff (reports : List Report) (urlPrefix : String) (plans : List ResourcePlan) :
    planRoutes reports urlPrefix = .ok plans ↔
      List.Forall₂ (ResourcePlan.Stands (normalizePrefix urlPrefix)) reports plans := by
  simp only [planRoutes, mapM_ok_iff, plan_resource_iff]

def HandlerRecord.Recognized (record : HandlerRecord) : Prop := ∃ kind : HandlerKind, kind.name = record.name

theorem of_name_fault_iff (record : HandlerRecord) (error : RouteError) :
    fault? (HandlerKind.ofName record.name) = some error ↔
      ¬ record.Recognized ∧ error = .unknownHandler record.name := by
  cases named : HandlerKind.ofName record.name with
  | ok kind =>
    have recognized : record.Recognized := ⟨kind, (of_name_iff _ _).mp named⟩
    simp [fault?, recognized]
  | error fault =>
    have unrecognized : ¬ record.Recognized := by
      rintro ⟨kind, name_eq⟩
      rw [(of_name_iff _ _).mpr name_eq] at named
      cases named
    have fault_eq : fault = .unknownHandler record.name := by
      rw [HandlerKind.ofName] at named
      split at named <;> cases named
      rfl
    simp [fault?, unrecognized, fault_eq, eq_comm]

theorem of_name_no_fault_iff (record : HandlerRecord) :
    fault? (HandlerKind.ofName record.name) = none ↔ record.Recognized := by
  rw [Option.eq_none_iff_forall_ne_some]
  constructor
  · intro none
    by_contra unrecognized
    exact none _ ((of_name_fault_iff _ _).mpr ⟨unrecognized, rfl⟩)
  · intro recognized error failed
    exact ((of_name_fault_iff _ _).mp failed).1 recognized

theorem fault_plan_routes (reports : List Report) (urlPrefix : String) :
    fault? (planRoutes reports urlPrefix) =
      (reports.flatMap (·.handlers)).findSome? fun record => fault? (HandlerKind.ofName record.name) := by
  have routed (report : Report) (base : String) : fault? (planResource base report) =
      report.handlers.findSome? fun record => fault? (HandlerKind.ofName record.name) := by
    simp only [planResource, planRoute, fault_map, fault_mapM]
  simp only [planRoutes, fault_mapM, routed, find_some_flat_map]

theorem plan_routes_error_iff (reports : List Report) (urlPrefix : String) (error : RouteError) :
    planRoutes reports urlPrefix = .error error ↔
      ∃ before record after, reports.flatMap (·.handlers) = before ++ record :: after ∧
        (∀ earlier ∈ before, earlier.Recognized) ∧ ¬ record.Recognized ∧ error = .unknownHandler record.name := by
  rw [← fault_some_iff, fault_plan_routes, List.findSome?_eq_some_iff]
  simp only [of_name_fault_iff, of_name_no_fault_iff]
  constructor
  · rintro ⟨before, record, after, listed, failed, passed⟩
    exact ⟨before, record, after, listed, passed, failed⟩
  · rintro ⟨before, record, after, listed, passed, failed⟩
    exact ⟨before, record, after, listed, failed, passed⟩

theorem plan_routes_fails_iff (reports : List Report) (urlPrefix : String) :
    (∃ error, planRoutes reports urlPrefix = .error error) ↔
      ∃ report ∈ reports, ∃ record ∈ report.handlers, ¬ record.Recognized := by
  constructor
  · rintro ⟨error, failed⟩
    obtain ⟨before, record, after, listed, -, unrecognized, -⟩ := (plan_routes_error_iff _ _ _).mp failed
    have member : record ∈ reports.flatMap (·.handlers) := by simp [listed]
    obtain ⟨report, reported, held⟩ := List.mem_flatMap.mp member
    exact ⟨report, reported, record, held, unrecognized⟩
  · rintro ⟨report, reported, record, held, unrecognized⟩
    cases planned : planRoutes reports urlPrefix with
    | error error => exact ⟨error, rfl⟩
    | ok plans =>
      have none := fault_plan_routes reports urlPrefix
      rw [planned] at none
      have passed := List.findSome?_eq_none_iff.mp none.symm record (List.mem_flatMap.mpr ⟨report, reported, held⟩)
      exact absurd ((of_name_no_fault_iff record).mp passed) unrecognized

theorem recognized_planned (reports : List Report) (urlPrefix : String)
    (recognized : ∀ report ∈ reports, ∀ record ∈ report.handlers, record.Recognized) :
    ∃ plans, planRoutes reports urlPrefix = .ok plans := by
  cases planned : planRoutes reports urlPrefix with
  | ok plans => exact ⟨plans, rfl⟩
  | error error =>
    obtain ⟨report, reported, record, held, unrecognized⟩ :=
      (plan_routes_fails_iff reports urlPrefix).mp ⟨error, planned⟩
    exact absurd (recognized report reported record held) unrecognized

theorem planning_settled (reports : List Report) (urlPrefix : String) :
    ((∃ error, planRoutes reports urlPrefix = .error error) ↔
      ∃ report ∈ reports, ∃ record ∈ report.handlers, ¬ record.Recognized) ∧
    (∀ error, planRoutes reports urlPrefix = .error error ↔
      ∃ before record after, reports.flatMap (·.handlers) = before ++ record :: after ∧
        (∀ earlier ∈ before, earlier.Recognized) ∧ ¬ record.Recognized ∧ error = .unknownHandler record.name) ∧
    ((∀ report ∈ reports, ∀ record ∈ report.handlers, record.Recognized) →
      ∃ plans, planRoutes reports urlPrefix = .ok plans ∧
        List.Forall₂ (ResourcePlan.Stands (normalizePrefix urlPrefix)) reports plans) := by
  refine ⟨plan_routes_fails_iff reports urlPrefix, plan_routes_error_iff reports urlPrefix, fun recognized => ?_⟩
  obtain ⟨plans, planned⟩ := recognized_planned reports urlPrefix recognized
  exact ⟨plans, planned, (plan_routes_iff reports urlPrefix plans).mp planned⟩

end ResourceRoutes
