import ResourceRoutes.Signature.Validation
set_option autoImplicit false

namespace ResourceRoutes

namespace Signature

theorem check_returns_iff (returns : List ReturnKind) (rule : Rule) :
    checkReturns returns rule = .ok () ↔ returns = rule.returns := by
  cases rule with
  | handler => cases returns <;> simp [checkReturns, Rule.returns]
  | hook =>
    match returns with
    | [] => simp [checkReturns, Rule.returns]
    | [.bool] => simp [checkReturns, Rule.returns]
    | [.other name] => simp [checkReturns, Rule.returns]
    | _ :: _ :: _ => simp [checkReturns, Rule.returns]

theorem check_slot_iff (position : Nat) (slot : Slot) (param : ParamKind) :
    checkSlot position slot param = .ok () ↔ param = slot.kind := by
  simp [checkSlot]

theorem check_slots_iff (position : Nat) (slot : Slot) (param : ParamKind) (rest : Except SignatureError Unit) :
    (do checkSlot position slot param; rest) = .ok () ↔ param = slot.kind ∧ rest = .ok () := by
  rw [← check_slot_iff position slot param]
  cases checkSlot position slot param <;> simp [bind, Except.bind]

theorem check_params_iff (params : List ParamKind) :
    checkParams params = .ok () ↔ params ∈ Callable.shapes := by
  match params with
  | [] => simp [checkParams, Callable.shapes]
  | [_] => simp [checkParams, Callable.shapes]
  | [writer, request] =>
    simp only [checkParams, check_slots_iff, check_slot_iff]
    simp [Callable.shapes, Slot.kind]
  | [leading, writer, request] =>
    simp only [checkParams, check_slots_iff, check_slot_iff]
    simp [Callable.shapes, Slot.kind]
  | _ :: _ :: _ :: _ :: _ => simp [checkParams, Callable.shapes]

theorem validate_iff (sig : Signature) (rule : Rule) (skipReceiver : Bool) :
    sig.validate rule skipReceiver = .ok () ↔
      sig.effectiveParams skipReceiver ∈ Callable.shapes ∧ sig.returns = rule.returns := by
  rw [← check_returns_iff, ← check_params_iff, and_comm, validate]
  cases checkReturns sig.returns rule <;> simp [bind, Except.bind]

end Signature

namespace Callable

theorem validate_iff_conforms (callable : Callable) (rule : Rule) (skipReceiver : Bool) :
    callable.validate rule skipReceiver = .ok () ↔ callable.Conforms rule skipReceiver := by
  cases callable with
  | function sig => simp [validate, Conforms, Signature.validate_iff]
  | value typeName => simp [validate, Conforms]

theorem conforming_arity (callable : Callable) (rule : Rule) (conforms : callable.Conforms rule true) :
    ∃ sig, callable = .function sig ∧ (sig.arity = 3 ∨ sig.arity = 4) := by
  obtain ⟨sig, same, shape, -⟩ := conforms
  refine ⟨sig, same, ?_⟩
  have lengths : sig.params.length - 1 = 3 ∨ sig.params.length - 1 = 2 := by
    have shaped := shape
    simp only [Signature.effectiveParams, if_true, shapes, List.mem_cons, List.not_mem_nil, or_false] at shaped
    rcases shaped with three | two
    · exact .inl (by simpa using congrArg List.length three)
    · exact .inr (by simpa using congrArg List.length two)
  unfold Signature.arity
  omega

end Callable

end ResourceRoutes
