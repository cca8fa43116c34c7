import ResourceRoutes.Introspection
import ResourceRoutes.Proofs.Signature.Conformance
set_option autoImplicit false

/- Reports and routes are both made from the pairs of kind and parameter count that are found on a resource. -/
namespace ResourceRoutes

namespace Descriptor

def Provides (d : Descriptor) (method : String) (rule : Rule) : Prop :=
  ∃ callable, d.get? method = some callable ∧ callable.validate rule true = .ok ()

theorem finding_accepted_iff (d : Descriptor) (method : String) (rule : Rule) (params : Nat) :
    d.finding method rule = .accepted params ↔
      ∃ sig, d.get? method = some (.function sig) ∧ (Callable.function sig).validate rule true = .ok () ∧
        params = sig.arity - 1 := by
  unfold finding
  cases held : d.get? method with
  | none => simp
  | some callable =>
    cases callable with
    | value typeName => simp [Callable.validate]
    | function sig =>
      cases checked : (Callable.function sig).validate rule true with
      | error error => simp [checked]
      | ok _ => simp [checked, Callable.signature?, eq_comm]

theorem finding_accepted (d : Descriptor) (method : String) (rule : Rule) (params : Nat)
    (accepted : d.finding method rule = .accepted params) :
    ∃ sig, d.get? method = some (.function sig) ∧ sig.arity = params + 1 ∧ (params = 2 ∨ params = 3) := by
  obtain ⟨sig, held, valid, counted⟩ := (finding_accepted_iff d method rule params).mp accepted
  obtain ⟨conforming, same, arity⟩ :=
    Callable.conforming_arity _ rule ((Callable.validate_iff_conforms _ rule true).mp valid)
  cases same
  exact ⟨sig, held, by omega, by omega⟩

theorem finding_params_iff (d : Descriptor) (method : String) (rule : Rule) :
    (∃ params, (d.finding method rule).params? = some params) ↔ d.Provides method rule := by
  have shown (params : Nat) :
      (d.finding method rule).params? = some params ↔ d.finding method rule = .accepted params := by
    cases d.finding method rule <;> simp [Finding.params?]
  simp only [shown, finding_accepted_iff]
  constructor
  · rintro ⟨_, sig, held, valid, -⟩
    exact ⟨_, held, valid⟩
  · rintro ⟨callable, held, valid⟩
    cases callable with
    | function sig => exact ⟨_, sig, held, valid, rfl⟩
    | value typeName => simp [Callable.validate] at valid

def foundHandlers (d : Descriptor) : List (HandlerKind × Nat) :=
  HandlerKind.all.filterMap fun kind => (d.handlerFinding kind).params?.map fun params => (kind, params)

theorem mem_found_handlers (d : Descriptor) (kind : HandlerKind) (params : Nat) :
    (kind, params) ∈ d.foundHandlers ↔ d.handlerFinding kind = .accepted params := by
  have listed : kind ∈ HandlerKind.all := by cases kind <;> decide
  have shown : (d.handlerFinding kind).params? = some params ↔ d.handlerFinding kind = .accepted params := by
    cases d.handlerFinding kind <;> simp [Finding.params?]
  simp only [foundHandlers, List.mem_filterMap, Option.map_eq_some_iff, Prod.mk.injEq]
  constructor
  · rintro ⟨_, _, _, found, rfl, rfl⟩
    exact shown.mp found
  · intro accepted
    exact ⟨kind, listed, params, shown.mpr accepted, rfl, rfl⟩

theorem found_kind_iff (d : Descriptor) (kind : HandlerKind) :
    (∃ params, (kind, params) ∈ d.foundHandlers) ↔ d.Provides kind.name .handler := by
  simp only [mem_found_handlers, ← finding_params_iff]
  refine exists_congr fun params => ?_
  unfold handlerFinding
  cases d.finding kind.name .handler <;> simp [Finding.params?]

theorem found_kinds_sublist (d : Descriptor) : (d.foundHandlers.map (·.1)).Sublist HandlerKind.all := by
  have kept : d.foundHandlers.map (·.1) =
      HandlerKind.all.filter fun kind => (d.handlerFinding kind).params?.isSome := by
    rw [foundHandlers, List.map_filterMap, ← List.filterMap_eq_filter]
    congr 1
    funext kind
    cases found : (d.handlerFinding kind).params? <;> simp [Option.guard, found]
  rw [kept]
  exact List.filter_sublist

theorem found_kinds_distinct (d : Descriptor) : (d.foundHandlers.map (·.1)).Nodup :=
  (found_kinds_sublist d).nodup (by decide)

end Descriptor

theorem introspect_handlers (name : String) (d : Descriptor) :
    (introspect name d).handlers = d.foundHandlers.map fun found => ⟨found.1.name, found.2⟩ := by
  simp [introspect, Descriptor.foundHandlers, List.map_filterMap, Function.comp_def]

theorem introspect_hook_iff (name : String) (d : Descriptor) (hook : HookKind) :
    (introspect name d).hasHook hook = true ↔ d.Provides hook.name .hook := by
  rw [← Descriptor.finding_params_iff, ← Option.isSome_iff_exists]
  cases hook <;> rfl

end ResourceRoutes
