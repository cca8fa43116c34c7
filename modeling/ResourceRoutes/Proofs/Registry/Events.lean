import Mathlib.Data.List.Forall2
import ResourceRoutes.Proofs.Introspection.States
import ResourceRoutes.Registry
set_option autoImplicit false

namespace ResourceRoutes

open Log (Event)

def HandlerRecord.event (resource : String) (record : HandlerRecord) : Event where
  level := .debug
  target := introspectionTarget
  message := "found handler"
  fields := [("resource", .quoted resource), ("handler", .bare record.name), ("params", .count record.params)]

def hookFoundEvent (resource hook : String) : Event where
  level := .debug
  target := introspectionTarget
  message := "found before hook"
  fields := [("resource", .quoted resource), ("hook", .bare hook)]

def SignatureError.event (resource method : String) (error : SignatureError) : Event where
  level := .warn
  target := introspectionTarget
  message := "method is present but invalid: " ++ error.message
  fields := [("resource", .bare resource), ("method", .quoted method), ("kind", .quoted error.kind)]

def SameFault (resource warning : String) (event : Event) : Prop :=
  ∃ entry ∈ recognized, ∃ error : SignatureError,
    warning = "method '" ++ entry.1 ++ "' is present but invalid: " ++ error.message ∧
      event = error.event resource entry.1

def tellsHandler (event : Event) : Bool := event.level == .debug && event.message == "found handler"

def tellsHook (event : Event) : Bool := event.level == .debug && event.message == "found before hook"

def tellsFault (event : Event) : Bool := event.level == .warn

def methodTold? (event : Event) : Option String :=
  event.fields.findSome? fun
    | ("handler", .bare method) | ("hook", .bare method) | ("method", .quoted method) => some method
    | _ => none

structure Report.MirroredBy (report : Report) (events : List Event) : Prop where
  handlers_told : events.filter tellsHandler = report.handlers.map (·.event report.structName)
  hooks_told : events.filter tellsHook =
    (HookKind.all.filter report.hasHook).map fun hook => hookFoundEvent report.structName hook.name
  warnings_told : List.Forall₂ (SameFault report.structName) report.warnings (events.filter tellsFault)
  nothing_else : ∀ event ∈ events, tellsHandler event ∨ tellsHook event ∨ tellsFault event
  in_order : ∃ methods : List String, events.map methodTold? = methods.map some ∧
    methods.Sublist (recognized.map (·.1))

namespace Descriptor

def event? (d : Descriptor) (resource : String) (entry : String × Rule) : Option Event :=
  match d.finding entry.1 entry.2, entry.2 with
  | .absent, _ => none
  | .accepted params, .handler => some (HandlerRecord.event resource ⟨entry.1, params⟩)
  | .accepted _, .hook => some (hookFoundEvent resource entry.1)
  | .rejected error, _ => some (error.event resource entry.1)

def faults (d : Descriptor) : List ((String × Rule) × SignatureError) :=
  recognized.filterMap fun entry => (d.finding entry.1 entry.2).error?.map (entry, ·)

end Descriptor

theorem rejection_event (resource method : String) (error : SignatureError) :
    rejectionEvent resource method error = error.event resource method := by
  simp [rejectionEvent, SignatureError.event, toString]

theorem handler_event (resource : String) (d : Descriptor) (kind : HandlerKind) :
    handlerEvent resource kind (d.handlerFinding kind) = d.event? resource (kind.name, .handler) := by
  unfold Descriptor.event? Descriptor.handlerFinding
  cases d.finding kind.name .handler with
  | absent => rfl
  | accepted params => rfl
  | rejected error => exact congrArg some (rejection_event resource kind.name error)

theorem hook_event (resource : String) (d : Descriptor) (hook : HookKind) :
    hookEvent resource hook (d.hookFinding hook) = d.event? resource (hook.name, .hook) := by
  unfold Descriptor.event? Descriptor.hookFinding
  cases d.finding hook.name .hook with
  | absent => rfl
  | accepted params => rfl
  | rejected error => exact congrArg some (rejection_event resource hook.name error)

theorem event_of_handler (resource : String) (d : Descriptor) (kind : HandlerKind) :
    (d.event? resource (kind.name, .handler)).filter tellsHandler =
        (d.record? kind).map (HandlerRecord.event resource) ∧
      (d.event? resource (kind.name, .handler)).filter tellsHook = none := by
  unfold Descriptor.event? Descriptor.record? Descriptor.handlerFinding
  cases d.finding kind.name .handler <;> exact ⟨rfl, rfl⟩

theorem event_of_hook (name : String) (d : Descriptor) (hook : HookKind) :
    (d.event? name (hook.name, .hook)).filter tellsHandler = none ∧
      (d.event? name (hook.name, .hook)).filter tellsHook =
        (Option.guard (introspect name d).hasHook hook).map fun hook => hookFoundEvent name hook.name := by
  rw [Option.guard, introspect_hook]
  unfold Descriptor.event? Descriptor.hookFinding
  cases d.finding hook.name .hook <;> exact ⟨rfl, rfl⟩

theorem event_of_fault (resource : String) (d : Descriptor) (entry : String × Rule) :
    (d.event? resource entry).filter tellsFault =
      (d.finding entry.1 entry.2).error?.map (SignatureError.event resource entry.1) := by
  unfold Descriptor.event?
  cases d.finding entry.1 entry.2 with
  | absent => rfl
  | accepted params => cases entry.2 <;> rfl
  | rejected error => rfl

theorem event_cases (resource : String) (d : Descriptor) (entry : String × Rule) (event : Event)
    (emitted : d.event? resource entry = some event) :
    methodTold? event = some entry.1 ∧ (tellsHandler event ∨ tellsHook event ∨ tellsFault event) := by
  obtain ⟨method, rule⟩ := entry
  unfold Descriptor.event? at emitted
  generalize d.finding (method, rule).1 (method, rule).2 = finding at emitted
  cases finding with
  | absent => cases emitted
  | accepted params =>
    cases rule with
    | handler =>
      cases emitted
      exact ⟨rfl, .inl rfl⟩
    | hook =>
      cases emitted
      exact ⟨rfl, .inr (.inl rfl)⟩
  | rejected error =>
    cases emitted
    exact ⟨rfl, .inr (.inr rfl)⟩

theorem introspect_events (name : String) (d : Descriptor) :
    introspectEvents name d = recognized.filterMap (d.event? name) := by
  rw [introspectEvents, recognized, List.filterMap_append, List.filterMap_map, List.filterMap_map]
  simp only [handler_event, hook_event, Function.comp_def]

theorem filter_events (name : String) (d : Descriptor) (told : Event → Bool) :
    (introspectEvents name d).filter told =
      (HandlerKind.all.filterMap fun kind => (d.event? name (kind.name, .handler)).filter told) ++
        HookKind.all.filterMap fun hook => (d.event? name (hook.name, .hook)).filter told := by
  simp only [introspectEvents, List.filter_append, List.filter_filterMap, handler_event, hook_event]

theorem introspect_handlers_told (name : String) (d : Descriptor) :
    (introspectEvents name d).filter tellsHandler = (introspect name d).handlers.map (HandlerRecord.event name) := by
  have recorded : (introspect name d).handlers = HandlerKind.all.filterMap d.record? := rfl
  simp only [filter_events, event_of_handler, event_of_hook, recorded, List.map_filterMap, List.filterMap_none,
    List.append_nil]

theorem introspect_hooks_told (name : String) (d : Descriptor) :
    (introspectEvents name d).filter tellsHook =
      (HookKind.all.filter (introspect name d).hasHook).map fun hook => hookFoundEvent name hook.name := by
  simp only [filter_events, event_of_handler, event_of_hook, List.filterMap_none, List.nil_append,
    ← List.map_filterMap]
  rw [List.filterMap_eq_filter]

theorem introspect_warnings_told (name : String) (d : Descriptor) :
    List.Forall₂ (SameFault name) (introspect name d).warnings ((introspectEvents name d).filter tellsFault) := by
  have warned : (introspect name d).warnings = d.faults.map fun fault => warningText fault.1.1 fault.2 := by
    rw [introspect_warnings, Descriptor.faults, List.map_filterMap]
    simp only [Option.map_map, Function.comp_def]
    rfl
  have told : (introspectEvents name d).filter tellsFault = d.faults.map fun fault => fault.2.event name fault.1.1 := by
    rw [introspect_events, List.filter_filterMap, Descriptor.faults, List.map_filterMap]
    simp only [event_of_fault, Option.map_map, Function.comp_def]
  rw [warned, told, List.forall₂_map_left_iff, List.forall₂_map_right_iff, List.forall₂_same]
  intro fault listed
  obtain ⟨entry, known, made⟩ := List.mem_filterMap.mp listed
  obtain ⟨error, -, rfl⟩ := Option.map_eq_some_iff.mp made
  exact ⟨entry, known, error, warning_text entry.1 error, rfl⟩

theorem introspect_methods_told (name : String) (d : Descriptor) :
    (introspectEvents name d).map methodTold? =
      ((recognized.filter fun entry => (d.event? name entry).isSome).map (·.1)).map some := by
  rw [introspect_events, List.map_filterMap, List.map_map, ← List.filterMap_eq_filter, List.map_filterMap]
  refine List.filterMap_congr fun entry _ => ?_
  cases emitted : d.event? name entry with
  | none => simp [emitted, Option.guard]
  | some event => simp [emitted, Option.guard, (event_cases name d entry event emitted).1]

theorem introspection_mirrored (name : String) (d : Descriptor) :
    (introspect name d).MirroredBy (introspectEvents name d) where
  handlers_told := introspect_handlers_told name d
  hooks_told := introspect_hooks_told name d
  warnings_told := introspect_warnings_told name d
  nothing_else := by
    intro event listed
    rw [introspect_events] at listed
    obtain ⟨entry, -, emitted⟩ := List.mem_filterMap.mp listed
    exact (event_cases name d entry event emitted).2
  in_order := ⟨_, introspect_methods_told name d, List.filter_sublist.map _⟩

namespace Registry

def eventsBehind (earlier : List Resource) (resource : Resource) : List Event :=
  (if resource.name ∈ earlier.map (·.name) then [repeatedEvent resource.name] else []) ++ [registeredEvent resource]

theorem register_events (registry : Registry) (resource : Resource) :
    registry.registerEvents resource = eventsBehind registry.resources resource := by
  have known : (registry.resources.any (·.name == resource.name)) = decide (resource.name ∈ registry.resources.map (·.name)) := by
    simp [List.any_eq, List.mem_map]
  simp only [registerEvents, known, decide_eq_true_eq, eventsBehind]

theorem extend_events_behind (registry : Registry) (known passed resources : List Resource)
    (registered : registry.resources = known ++ passed) :
    registry.extendEvents resources = (resources.zipIdx passed.length).flatMap fun entry =>
      eventsBehind (known ++ (passed ++ resources).take entry.2) entry.1 := by
  induction resources generalizing registry passed with
  | nil => rfl
  | cons resource rest ih =>
    have next := ih (registry.register resource) (passed ++ [resource]) (by rw [register, registered, List.append_assoc])
    rw [List.length_append, List.length_singleton, List.append_assoc, List.singleton_append] at next
    rw [extendEvents, List.zipIdx_cons, List.flatMap_cons, next, register_events, registered, List.take_left]

theorem logged_as_reported (registry : Registry) (resources : List Resource) :
    (∃ blocks : List (List Event), List.Forall₂ Report.MirroredBy registry.reports blocks ∧
      registry.reportEvents = blocks.flatten ++ [completionEvent registry.reports]) ∧
    registry.extendEvents resources = resources.zipIdx.flatMap fun entry =>
      (if entry.1.name ∈ (registry.resources ++ resources.take entry.2).map (·.name) then [repeatedEvent entry.1.name]
        else []) ++ [registeredEvent entry.1] := by
  refine ⟨⟨registry.resources.map fun resource => introspectEvents resource.name resource.descriptor, ?_, ?_⟩, ?_⟩
  · rw [reports, List.forall₂_map_left_iff, List.forall₂_map_right_iff, List.forall₂_same]
    exact fun resource _ => introspection_mirrored resource.name resource.descriptor
  · rw [reportEvents, List.flatMap_def]
  · exact extend_events_behind registry registry.resources [] resources (List.append_nil _).symm

end Registry

end ResourceRoutes
