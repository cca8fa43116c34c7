import ResourceRoutes.Decimal
import ResourceRoutes.Proofs.Traversal
import ResourceRoutes.Report.Record
import ResourceRoutes.Route.Plan.Record
set_option autoImplicit false

/- What a format has to do is said once, as a relation between documents and values of the format; records are then
   read back in every format. -/
namespace ResourceRoutes

variable {ν : Type} [Readable ν]

mutual
def Shows : Document → ν → Prop
  | .text content, v => Readable.text? v = some content
  | .nat n, v => Readable.nat? v = some n
  | .flag value, v => Readable.flag? v = some value
  | .list items, v => ∃ vs, Readable.items? v = some vs ∧ ShowsItems items vs
  | .record fields, v =>
      ∃ entries, (∀ names, Readable.fields? names v = some ⟨entries, true⟩) ∧ ShowsFields fields entries

def ShowsItems : List Document → List ν → Prop
  | [], [] => True
  | item :: items, v :: vs => Shows item v ∧ ShowsItems items vs
  | _, _ => False

def ShowsFields : List (String × Document) → List (String × ν) → Prop
  | [], [] => True
  | (name, value) :: fields, entry :: entries => entry.1 = name ∧ Shows value entry.2 ∧ ShowsFields fields entries
  | _, _ => False
end

mutual
def Document.Fits : Document → Prop
  | .nat n => n < natBound
  | .list items => FitItems items
  | .record fields => FitFields fields
  | _ => True

def FitItems : List Document → Prop
  | [] => True
  | item :: items => item.Fits ∧ FitItems items

def FitFields : List (String × Document) → Prop
  | [] => True
  | (_, value) :: fields => value.Fits ∧ FitFields fields
end

theorem fit_items_map {α : Type} (document : α → Document) (xs : List α) (each : ∀ x ∈ xs, (document x).Fits) :
    FitItems (xs.map document) :=
  said_of_map trivial (fun _ _ first others => ⟨first, others⟩) document xs each

theorem read_items {α : Type} (item : ν → Except ReadFault α) (document : α → Document) (as : List α) (vs : List ν)
    (each : ∀ a ∈ as, ∀ v, Shows (document a) v → item v = .ok a) (shown : ShowsItems (as.map document) vs) :
    vs.mapM item = .ok as := by
  induction as generalizing vs with
  | nil =>
    cases vs with
    | nil => rfl
    | cons v vs => exact shown.elim
  | cons a as ih =>
    cases vs with
    | nil => exact shown.elim
    | cons v vs =>
      have first := each a (List.mem_cons_self ..) v shown.1
      have others := ih vs (fun b member => each b (List.mem_cons_of_mem _ member)) shown.2
      rw [List.mapM_cons, first, others]
      rfl

theorem read_list {α : Type} (item : ν → Except ReadFault α) (document : α → Document) (as : List α) (v : ν)
    (each : ∀ a ∈ as, ∀ v, Shows (document a) v → item v = .ok a) (shown : Shows (.list (as.map document)) v) :
    Readable.list item v = .ok as := by
  obtain ⟨vs, items, each_shown⟩ := shown
  rw [Readable.list, items]
  exact read_items item document as vs each each_shown

theorem read_text (content : String) (v : ν) (shown : Shows (.text content) v) :
    Readable.text v = .ok content := by
  rw [Readable.text, show Readable.text? v = some content from shown]
  rfl

theorem read_nat (n : Nat) (v : ν) (shown : Shows (.nat n) v) : Readable.nat v = .ok n := by
  rw [Readable.nat, show Readable.nat? v = some n from shown]
  rfl

theorem read_flag (value : Bool) (v : ν) (shown : Shows (.flag value) v) : Readable.flag v = .ok value := by
  rw [Readable.flag, show Readable.flag? v = some value from shown]
  rfl

theorem HandlerRecord.read_shown (record : HandlerRecord) (v : ν) (shown : Shows record.document v) :
    HandlerRecord.read v = .ok record := by
  obtain ⟨entries, given, fields⟩ := shown
  match entries, fields with
  | [name, params], ⟨name_eq, name_shown, params_eq, params_shown, _⟩ =>
    obtain ⟨_, name⟩ := name
    obtain ⟨_, params⟩ := params
    subst name_eq params_eq
    have read_name := read_text _ _ name_shown
    have read_params := read_nat _ _ params_shown
    simp [HandlerRecord.read, Readable.fields, given, ReadFault.require, Fields.required, Fields.once,
      Fields.checkSound, read_name, read_params, bind, Except.bind, pure, Except.pure]

theorem Report.read_shown (report : Report) (v : ν) (shown : Shows report.document v) :
    Report.read v = .ok report := by
  obtain ⟨entries, given, fields⟩ := shown
  match entries, fields with
  | [name, handlers, one, many, all, warnings],
    ⟨name_eq, name_shown, handlers_eq, handlers_shown, one_eq, one_shown, many_eq, many_shown, all_eq, all_shown,
      warnings_eq, warnings_shown, _⟩ =>
    obtain ⟨_, name⟩ := name
    obtain ⟨_, handlers⟩ := handlers
    obtain ⟨_, one⟩ := one
    obtain ⟨_, many⟩ := many
    obtain ⟨_, all⟩ := all
    obtain ⟨_, warnings⟩ := warnings
    subst name_eq handlers_eq one_eq many_eq all_eq warnings_eq
    have read_name := read_text _ _ name_shown
    have read_handlers := read_list HandlerRecord.read HandlerRecord.document _ _
      (fun record _ v shown => HandlerRecord.read_shown record v shown) handlers_shown
    have read_one := read_flag _ _ one_shown
    have read_many := read_flag _ _ many_shown
    have read_all := read_flag _ _ all_shown
    have read_warnings := read_list Readable.text Document.text _ _
      (fun warning _ v shown => read_text warning v shown) warnings_shown
    simp [Report.read, Readable.fields, given, ReadFault.require, Fields.required, Fields.optional, Fields.once,
      Fields.checkSound, read_name, read_handlers, read_one, read_many, read_all, read_warnings, bind, Except.bind,
      pure, Except.pure]

theorem Report.read_all_shown (reports : List Report) (v : ν) (shown : Shows (Report.documents reports) v) :
    Report.readAll v = .ok reports :=
  read_list Report.read Report.document reports v (fun report _ v shown => Report.read_shown report v shown) shown

theorem read_handler_kind (kind : HandlerKind) (v : ν) (shown : Shows (.text kind.name) v) :
    HandlerKind.read v = .ok kind := by
  rw [HandlerKind.read, read_text _ v shown]
  exact congrArg ReadFault.named (HandlerKind.ofName_name kind)

theorem read_hook_kind (hook : HookKind) (v : ν) (shown : Shows (.text hook.name) v) :
    HookKind.read v = .ok hook := by
  rw [HookKind.read, read_text _ v shown]
  exact congrArg ReadFault.named (HookKind.ofName_name hook)

theorem read_method (method : Method) (v : ν) (shown : Shows (.text method.token) v) :
    Method.read v = .ok method := by
  rw [Method.read, read_text _ v shown]
  have token : Method.ofString? method.token = some method := by rw [Method.ofString?, dif_pos method.valid]
  exact congrArg ReadFault.require token

theorem PlannedRoute.read_shown (route : PlannedRoute) (v : ν) (shown : Shows route.document v) :
    PlannedRoute.read v = .ok route := by
  obtain ⟨entries, given, fields⟩ := shown
  match entries, fields with
  | [handler, method, path, params, hooks],
    ⟨handler_eq, handler_shown, method_eq, method_shown, path_eq, path_shown, params_eq, params_shown, hooks_eq,
      hooks_shown, _⟩ =>
    obtain ⟨_, handler⟩ := handler
    obtain ⟨_, method⟩ := method
    obtain ⟨_, path⟩ := path
    obtain ⟨_, params⟩ := params
    obtain ⟨_, hooks⟩ := hooks
    subst handler_eq method_eq path_eq params_eq hooks_eq
    have read_handler := read_handler_kind _ _ handler_shown
    have read_method := read_method _ _ method_shown
    have read_path := read_text _ _ path_shown
    have read_params := read_nat _ _ params_shown
    have read_hooks := read_list HookKind.read (fun hook => .text hook.name) _ _
      (fun hook _ v shown => read_hook_kind hook v shown) hooks_shown
    simp [PlannedRoute.read, Readable.fields, given, ReadFault.require, PlannedRoute.Draft.add,
      PlannedRoute.Draft.complete?, fill, Fields.checkSound, read_handler, read_method, read_path, read_params,
      read_hooks, bind, Except.bind, Except.map, pure, Except.pure]

theorem ResourcePlan.read_shown (plan : ResourcePlan) (v : ν) (shown : Shows plan.document v) :
    ResourcePlan.read v = .ok plan := by
  obtain ⟨entries, given, fields⟩ := shown
  match entries, fields with
  | [resource, base, routes],
    ⟨resource_eq, resource_shown, base_eq, base_shown, routes_eq, routes_shown, _⟩ =>
    obtain ⟨_, resource⟩ := resource
    obtain ⟨_, base⟩ := base
    obtain ⟨_, routes⟩ := routes
    subst resource_eq base_eq routes_eq
    have read_resource := read_text _ _ resource_shown
    have read_base := read_text _ _ base_shown
    have read_routes := read_list PlannedRoute.read PlannedRoute.document _ _
      (fun route _ v shown => PlannedRoute.read_shown route v shown) routes_shown
    simp [ResourcePlan.read, Readable.fields, given, ReadFault.require, ResourcePlan.Draft.add,
      ResourcePlan.Draft.complete?, fill, Fields.checkSound, read_resource, read_base, read_routes, bind, Except.bind,
      Except.map, pure, Except.pure]

theorem ResourcePlan.read_all_shown (plans : List ResourcePlan) (v : ν)
    (shown : Shows (ResourcePlan.documents plans) v) : ResourcePlan.readAll v = .ok plans :=
  read_list ResourcePlan.read ResourcePlan.document plans v
    (fun plan _ v shown => ResourcePlan.read_shown plan v shown) shown

theorem report_documents_fit (reports : List Report)
    (sized : ∀ report ∈ reports, ∀ record ∈ report.handlers, record.params < natBound) :
    (Report.documents reports).Fits := by
  refine fit_items_map Report.document reports fun report member => ?_
  have handlers := fit_items_map HandlerRecord.document report.handlers fun record held =>
    ⟨trivial, sized report member record held, trivial⟩
  have warnings := fit_items_map Document.text report.warnings fun _ _ => trivial
  exact ⟨trivial, handlers, trivial, trivial, trivial, warnings, trivial⟩

theorem plan_documents_fit (plans : List ResourcePlan)
    (sized : ∀ plan ∈ plans, ∀ route ∈ plan.routes, route.params < natBound) :
    (ResourcePlan.documents plans).Fits := by
  refine fit_items_map ResourcePlan.document plans fun plan member => ?_
  refine ⟨trivial, trivial, fit_items_map PlannedRoute.document plan.routes fun route planned => ?_, trivial⟩
  have hooks := fit_items_map (fun hook : HookKind => Document.text hook.name) route.hooks fun _ _ => trivial
  exact ⟨trivial, trivial, trivial, sized plan member route planned, hooks, trivial⟩

end ResourceRoutes
