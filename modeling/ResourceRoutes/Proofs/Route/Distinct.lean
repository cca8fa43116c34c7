import ResourceRoutes.Proofs.Route.Planned
set_option autoImplicit false

/- Routes of one resource differ in their kind, which verb and ending give away; routes of two resources differ in their
   bases, since a base without slashes ends where the ending of the kind begins. -/
namespace ResourceRoutes

theorem take_before_slash (base ending : List Char) (free : '/' ∉ base) (begins : ∀ c ∈ ending.head?, c = '/') :
    (base ++ ending).takeWhile (· != '/') = base := by
  have passed : ∀ c ∈ base, (c != '/') = true := by
    intro c member
    exact bne_iff_ne.mpr fun slash => free (slash ▸ member)
  have stopped : ending.takeWhile (· != '/') = [] := by
    cases ending with
    | nil => rfl
    | cons c rest =>
      obtain rfl := begins c rfl
      rfl
  rw [List.takeWhile_append_of_pos passed, stopped, List.append_nil]

namespace HandlerKind

theorem ending_begins (kind : HandlerKind) : ∀ c ∈ kind.pathEnding.toList.head?, c = '/' := by
  have known : kind.pathEnding.toList.head? = none ∨ kind.pathEnding.toList.head? = some '/' := by
    cases kind <;> decide
  intro c first
  rcases known with none | slash
  · rw [none] at first
    cases first
  · rw [slash] at first
    cases first
    rfl

theorem base_of_url (a b : HandlerKind) (structName other : String) (free : '/' ∉ (basePath structName).toList)
    (other_free : '/' ∉ (basePath other).toList) (same : a.url structName = b.url other) :
    basePath structName = basePath other := by
  have urls := congrArg String.toList same
  rw [url_eq, url_eq, String.toList_append, String.toList_append] at urls
  have bases := congrArg (List.takeWhile (· != '/')) urls
  rw [take_before_slash _ _ free (ending_begins a), take_before_slash _ _ other_free (ending_begins b)] at bases
  exact String.toList_injective bases

end HandlerKind

def PlannedRoute.Apart (a b : PlannedRoute) : Prop := (a.method, a.path) ≠ (b.method, b.path)

theorem routes_apart_in_report (base : String) (report : Report) (plan : ResourcePlan)
    (stands : plan.Stands base report) (unrepeated : (report.handlers.map (·.name)).Nodup) :
    plan.routes.Pairwise PlannedRoute.Apart := by
  refine paired_pairwise stands.routes_stand ?_ (List.pairwise_map.mp unrepeated)
  intro record other a b a_stands b_stands different same
  obtain ⟨verb, path⟩ := Prod.mk.inj same
  rw [a_stands.method_eq, b_stands.method_eq] at verb
  rw [a_stands.path_eq, b_stands.path_eq] at path
  have kinds := HandlerKind.url_injective _ _ _ _ verb path
  exact different (a_stands.name_eq.symm.trans ((congrArg HandlerKind.name kinds).trans b_stands.name_eq))

theorem routes_apart_between (base : String) (report other : Report) (plan otherPlan : ResourcePlan)
    (stands : plan.Stands base report) (other_stands : otherPlan.Stands base other)
    (free : '/' ∉ (basePath report.structName).toList) (other_free : '/' ∉ (basePath other.structName).toList)
    (different : basePath report.structName ≠ basePath other.structName) :
    ∀ a ∈ plan.routes, ∀ b ∈ otherPlan.routes, a.Apart b := by
  intro a a_planned b b_planned same
  obtain ⟨-, path⟩ := Prod.mk.inj same
  obtain ⟨record, -, a_stands⟩ := paired_source stands.routes_stand a a_planned
  obtain ⟨otherRecord, -, b_stands⟩ := paired_source other_stands.routes_stand b b_planned
  rw [a_stands.path_eq, b_stands.path_eq] at path
  have urls : a.handler.url report.structName = b.handler.url other.structName := by simpa using path
  exact different (HandlerKind.base_of_url _ _ _ _ free other_free urls)

theorem handlers_of_plans (base : String) (reports : List Report) (plans : List ResourcePlan)
    (stand : List.Forall₂ (ResourcePlan.Stands base) reports plans) :
    (plans.map fun plan => plan.routes.map (·.handler.name)) =
      reports.map fun report => report.handlers.map (·.name) := by
  have named (report : Report) (records : List HandlerRecord) (routes : List PlannedRoute)
      (each : List.Forall₂ (PlannedRoute.Stands base report) records routes) :
      routes.map (·.handler.name) = records.map (·.name) := by
    induction each with
    | nil => rfl
    | cons first _ ih => rw [List.map_cons, List.map_cons, first.name_eq, ih]
  induction stand with
  | nil => rfl
  | cons first _ ih => rw [List.map_cons, List.map_cons, named _ _ _ first.routes_stand, ih]

theorem planned_routes_distinct (reports : List Report) (urlPrefix : String)
    (recognized : ∀ report ∈ reports, ∀ record ∈ report.handlers, record.Recognized)
    (unrepeated : ∀ report ∈ reports, (report.handlers.map (·.name)).Nodup)
    (bases_distinct : (reports.map fun report => basePath report.structName).Nodup)
    (bases_free : ∀ report ∈ reports, '/' ∉ (basePath report.structName).toList) :
    ∃ plans, planRoutes reports urlPrefix = .ok plans ∧
      (plans.map fun plan => plan.routes.map (·.handler.name)) =
        (reports.map fun report => report.handlers.map (·.name)) ∧
      (plans.flatMap (·.routes)).Pairwise fun a b => (a.method, a.path) ≠ (b.method, b.path) := by
  obtain ⟨plans, planned⟩ := recognized_planned reports urlPrefix recognized
  have stand := (plan_routes_iff reports urlPrefix plans).mp planned
  have bases_apart : reports.Pairwise fun report other =>
      basePath report.structName ≠ basePath other.structName ∧ '/' ∉ (basePath report.structName).toList ∧
        '/' ∉ (basePath other.structName).toList := by
    refine (List.pairwise_map.mp bases_distinct).imp_of_mem fun member other_member different => ?_
    exact ⟨different, bases_free _ member, bases_free _ other_member⟩
  refine ⟨plans, planned, handlers_of_plans _ _ _ stand, List.pairwise_flatMap.mpr ⟨fun plan member => ?_, ?_⟩⟩
  · obtain ⟨report, listed, stands⟩ := paired_source stand plan member
    exact routes_apart_in_report _ report plan stands (unrepeated report listed)
  · refine paired_pairwise stand ?_ bases_apart
    rintro report other plan otherPlan stands other_stands ⟨different, free, other_free⟩
    exact routes_apart_between _ _ _ _ _ stands other_stands free other_free different

theorem neighbouring_bases_distinct :
    ∃ plans,
      planRoutes [⟨"TodoResource", [⟨"GetOne", 2⟩, ⟨"Put", 3⟩, ⟨"GetMany", 2⟩], false, false, false, []⟩,
        ⟨"Todos", [⟨"GetMany", 3⟩, ⟨"GetOne", 2⟩, ⟨"Patch", 2⟩], true, false, false, []⟩] "v1/" = .ok plans ∧
      (plans.map fun plan => plan.routes.map (·.handler.name)) =
        [["GetOne", "Put", "GetMany"], ["GetMany", "GetOne", "Patch"]] ∧
      (plans.flatMap (·.routes)).Pairwise fun a b => (a.method, a.path) ≠ (b.method, b.path) := by
  refine planned_routes_distinct _ "v1/" ?_ (by decide) (by decide) (by decide)
  simp only [List.mem_cons, List.not_mem_nil, or_false, forall_eq_or_imp, forall_eq]
  exact ⟨⟨⟨.getOne, rfl⟩, ⟨.put, rfl⟩, ⟨.getMany, rfl⟩⟩, ⟨.getMany, rfl⟩, ⟨.getOne, rfl⟩, ⟨.patch, rfl⟩⟩

end ResourceRoutes
