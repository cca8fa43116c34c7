import ResourceRoutes.Proofs.Introspection.Finding
import ResourceRoutes.Proofs.Registry.Schedule
import ResourceRoutes.Proofs.Route.Url
import ResourceRoutes.Proofs.Traversal
import ResourceRoutes.Route.Plan
set_option autoImplicit false

/- Inspection names recognized handlers only, so planning its reports never fails. -/
namespace ResourceRoutes

def routeOf (urlPrefix : String) (resource : Resource) (found : HandlerKind × Nat) : PlannedRoute where
  handler := found.1
  method := found.1.method
  path := normalizePrefix urlPrefix ++ "/" ++ found.1.url resource.name
  params := found.2
  hooks := found.1.hookChain (introspect resource.name resource.descriptor)

def planOf (urlPrefix : String) (resource : Resource) : ResourcePlan :=
  ⟨resource.name, basePath resource.name, resource.descriptor.foundHandlers.map (routeOf urlPrefix resource)⟩

theorem plan_introspected (urlPrefix : String) (resource : Resource) :
    planResource (normalizePrefix urlPrefix) (introspect resource.name resource.descriptor) =
      .ok (planOf urlPrefix resource) := by
  have routes := mapM_map_ok
    (planRoute (introspect resource.name resource.descriptor) (normalizePrefix urlPrefix))
    (fun found => ⟨found.1.name, found.2⟩) (routeOf urlPrefix resource) resource.descriptor.foundHandlers (by
      intro found _
      rw [planRoute, HandlerKind.ofName_name]
      rfl)
  rw [planResource, introspect_handlers, routes]
  rfl

theorem plan_routes_introspected (resources : List Resource) (jobs : Nat) (urlPrefix : String) :
    planRoutes ((Registry.mk resources).reportsWith jobs) urlPrefix = .ok (resources.map (planOf urlPrefix)) := by
  rw [Registry.reports_with_jobs]
  exact mapM_map_ok _ _ _ resources fun resource _ => plan_introspected urlPrefix resource

theorem hook_chain_iff (kind : HandlerKind) (report : Report) (hook : HookKind) :
    hook ∈ kind.hookChain report ↔ report.hasHook hook = true ∧ kind.applies hook = true := by
  simp only [HandlerKind.hookChain, HandlerKind.applies, List.mem_filter, List.mem_cons, List.not_mem_nil, or_false,
    Bool.or_eq_true, beq_iff_eq, @eq_comm _ kind.specificHook]
  exact and_comm

theorem has_before_iff (kind : HandlerKind) (hook : HookKind) :
    hasBefore kind.name hook.name = .ok true ↔ kind.applies hook = true := by
  rw [hasBefore, HandlerKind.ofName_name, HookKind.ofName_name]
  simp [Except.map]

theorem found_routes_distinct (urlPrefix : String) (resource : Resource) :
    (planOf urlPrefix resource).routes.Pairwise fun a b => (a.method, a.path) ≠ (b.method, b.path) := by
  have kinds := Descriptor.found_kinds_distinct resource.descriptor
  rw [planOf, List.pairwise_map]
  refine (List.pairwise_map.mp kinds).imp ?_
  intro a b different same
  obtain ⟨verb, path⟩ := Prod.mk.inj same
  exact different (HandlerKind.url_injective a.1 b.1 _ _ verb path)

structure PlannedRoute.Traced (urlPrefix : String) (resource : Resource) (route : PlannedRoute) : Prop where
  params_range : route.params = 2 ∨ route.params = 3
  params_arity : ∃ sig, resource.descriptor.get? route.handler.name = some (.function sig) ∧
    route.params = sig.arity - 1
  path_eq : route.path = normalizePrefix urlPrefix ++ "/" ++ basePath resource.name ++
    if route.handler ∈ [.deleteOne, .getOne, .patch, .put] then "/:id" else ""
  hook_iff : ∀ hook : HookKind, hook ∈ route.hooks ↔
    (∃ callable, resource.descriptor.get? hook.name = some callable ∧ callable.validate .hook true = .ok ()) ∧
      hasBefore route.handler.name hook.name = .ok true

structure ResourcePlan.Traced (urlPrefix : String) (resource : Resource) (plan : ResourcePlan) : Prop where
  resource_eq : plan.resource = resource.name
  base_eq : plan.base = basePath resource.name
  handler_iff : ∀ kind : HandlerKind, (∃ route ∈ plan.routes, route.handler = kind) ↔
    ∃ callable, resource.descriptor.get? kind.name = some callable ∧ callable.validate .handler true = .ok ()
  in_order : (plan.routes.map (·.handler)).Sublist HandlerKind.all
  kinds_distinct : (plan.routes.map (·.handler)).Nodup
  routes_distinct : plan.routes.Pairwise fun a b => (a.method, a.path) ≠ (b.method, b.path)
  routes_traced : ∀ route ∈ plan.routes, route.Traced urlPrefix resource

theorem ending_eq (kind : HandlerKind) :
    kind.pathEnding = if kind ∈ [.deleteOne, .getOne, .patch, .put] then "/:id" else "" := by
  cases kind <;> rfl

theorem route_traced (urlPrefix : String) (resource : Resource) (kind : HandlerKind) (params : Nat)
    (found : (kind, params) ∈ resource.descriptor.foundHandlers) :
    (routeOf urlPrefix resource (kind, params)).Traced urlPrefix resource := by
  have accepted := (Descriptor.mem_found_handlers _ kind params).mp found
  obtain ⟨sig, held, arity, range⟩ := Descriptor.finding_accepted _ _ _ _ accepted
  refine ⟨range, ⟨sig, held, ?_⟩, ?_, fun hook => ?_⟩
  · show params = sig.arity - 1
    omega
  · simp only [routeOf, HandlerKind.url_eq, ending_eq, String.append_assoc]
  · rw [has_before_iff]
    exact (hook_chain_iff kind _ hook).trans (and_congr_left' (introspect_hook_iff _ _ hook))

theorem plan_traced (urlPrefix : String) (resource : Resource) :
    (planOf urlPrefix resource).Traced urlPrefix resource := by
  have kinds : (planOf urlPrefix resource).routes.map (·.handler) = resource.descriptor.foundHandlers.map (·.1) := by
    simp [planOf, routeOf, Function.comp_def]
  refine ⟨rfl, rfl, fun kind => ?_, ?_, ?_, found_routes_distinct urlPrefix resource, ?_⟩
  · refine Iff.trans ?_ (Descriptor.found_kind_iff resource.descriptor kind)
    constructor
    · rintro ⟨route, planned, rfl⟩
      obtain ⟨found, member, rfl⟩ := List.mem_map.mp planned
      exact ⟨found.2, member⟩
    · rintro ⟨params, member⟩
      exact ⟨_, List.mem_map_of_mem member, rfl⟩
  · rw [kinds]
    exact Descriptor.found_kinds_sublist _
  · rw [kinds]
    exact Descriptor.found_kinds_distinct _
  · intro route planned
    obtain ⟨⟨kind, params⟩, found, rfl⟩ := List.mem_map.mp planned
    exact route_traced urlPrefix resource kind params found

theorem gathered_routes_traced (resources : List Resource) (jobs : Nat) (urlPrefix : String) :
    ∃ plans, planRoutes ((Registry.mk resources).reportsWith jobs) urlPrefix = .ok plans ∧
      plans.length = resources.length ∧
      ∀ (i : Nat) (resource : Resource) (plan : ResourcePlan), resources[i]? = some resource →
        plans[i]? = some plan → plan.Traced urlPrefix resource := by
  refine ⟨_, plan_routes_introspected resources jobs urlPrefix, List.length_map .., ?_⟩
  intro i resource plan at_i planned
  rw [List.getElem?_map, at_i] at planned
  cases planned
  exact plan_traced urlPrefix resource

end ResourceRoutes
