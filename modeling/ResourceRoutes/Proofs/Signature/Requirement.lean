import ResourceRoutes.Proofs.Signature.Conformance
import ResourceRoutes.Proofs.Traversal
set_option autoImplicit false

namespace ResourceRoutes

inductive Requirement where
  | function
  | returns
  | count
  | slot (slot : Slot)
deriving DecidableEq, Repr

def Requirement.all : List Requirement :=
  [.function, .returns, .count, .slot .context, .slot .writer, .slot .request]

def Slot.ofCount : Nat → List Slot
  | 2 => [.writer, .request]
  | 3 => [.context, .writer, .request]
  | _ => []

namespace Callable

inductive Breaks (callable : Callable) (rule : Rule) (skipReceiver : Bool) : Requirement → SignatureError → Prop where
  | function (typeName : String) (held : callable = .value typeName) :
      Breaks callable rule skipReceiver .function (.notAFunction typeName)
  | returnArity (sig : Signature) (held : callable = .function sig)
      (differs : sig.returns.length ≠ rule.returns.length) :
      Breaks callable rule skipReceiver .returns (.wrongReturnArity rule.returns.length sig.returns.length)
  | returnType (sig : Signature) (held : callable = .function sig) (name : String)
      (asked : rule.returns = [.bool]) (single : sig.returns = [.other name]) :
      Breaks callable rule skipReceiver .returns (.wrongReturnType "bool" name)
  | count (sig : Signature) (held : callable = .function sig)
      (other : (sig.effectiveParams skipReceiver).length ≠ 2 ∧ (sig.effectiveParams skipReceiver).length ≠ 3) :
      Breaks callable rule skipReceiver .count (.wrongParamCount (sig.effectiveParams skipReceiver).length)
  | slot (sig : Signature) (held : callable = .function sig) (index : Nat) (slot : Slot) (param : ParamKind)
      (expected : (Slot.ofCount (sig.effectiveParams skipReceiver).length)[index]? = some slot)
      (found : (sig.effectiveParams skipReceiver)[index]? = some param) (differs : param ≠ slot.kind) :
      Breaks callable rule skipReceiver (.slot slot) (.wrongParamType (index + 1) slot param.displayName)

def FirstBroken (callable : Callable) (rule : Rule) (skipReceiver : Bool) (error : SignatureError) : Prop :=
  ∃ earlier requirement later, Requirement.all = earlier ++ requirement :: later ∧
    callable.Breaks rule skipReceiver requirement error ∧
      ∀ other ∈ earlier, ∀ fault, ¬ callable.Breaks rule skipReceiver other fault

end Callable

namespace Signature

def slotBreach? (params : List ParamKind) (slot : Slot) : Option SignatureError :=
  ((Slot.ofCount params.length).idxOf? slot).bind fun index =>
    params[index]?.bind fun param => fault? (checkSlot (index + 1) slot param)

def breach? (returns : List ReturnKind) (params : List ParamKind) (rule : Rule) :
    Requirement → Option SignatureError
  | .function => none
  | .returns => fault? (checkReturns returns rule)
  | .count => if params.length = 2 ∨ params.length = 3 then none else some (.wrongParamCount params.length)
  | .slot slot => slotBreach? params slot

theorem check_returns_fault_iff (returns : List ReturnKind) (rule : Rule) (error : SignatureError) :
    fault? (checkReturns returns rule) = some error ↔
      (returns.length ≠ rule.returns.length ∧ error = .wrongReturnArity rule.returns.length returns.length) ∨
        ∃ name, rule.returns = [.bool] ∧ returns = [.other name] ∧ error = .wrongReturnType "bool" name := by
  cases rule with
  | handler =>
    cases returns with
    | nil => simp [checkReturns, Rule.returns, fault?]
    | cons first rest => simp [checkReturns, Rule.returns, fault?, eq_comm]
  | hook =>
    cases returns with
    | nil => simp [checkReturns, Rule.returns, fault?, eq_comm]
    | cons first rest =>
      cases rest with
      | nil => cases first <;> simp [checkReturns, Rule.returns, fault?, ReturnKind.displayName, eq_comm]
      | cons second rest => simp [checkReturns, Rule.returns, fault?, eq_comm]

theorem slot_index_iff (count : Nat) (slot : Slot) (index : Nat) :
    (Slot.ofCount count).idxOf? slot = some index ↔ (Slot.ofCount count)[index]? = some slot := by
  match count with
  | 0 => simp [Slot.ofCount]
  | 1 => simp [Slot.ofCount]
  | 2 => rcases index with _ | _ | index <;> cases slot <;> simp [Slot.ofCount, List.idxOf?, List.findIdx?_cons]
  | 3 => rcases index with _ | _ | _ | index <;> cases slot <;> simp [Slot.ofCount, List.idxOf?, List.findIdx?_cons]
  | count + 4 => simp [Slot.ofCount]

theorem check_slot_fault_iff (position : Nat) (slot : Slot) (param : ParamKind) (error : SignatureError) :
    fault? (checkSlot position slot param) = some error ↔
      param ≠ slot.kind ∧ error = .wrongParamType position slot param.displayName := by
  rw [checkSlot]
  split
  · rename_i same
    simp [fault?, same]
  · rename_i different
    simp [fault?, different, eq_comm]

theorem check_slot_no_fault_iff (position : Nat) (slot : Slot) (param : ParamKind) :
    fault? (checkSlot position slot param) = none ↔ param = slot.kind := by
  rw [← check_slot_iff position slot param]
  cases checkSlot position slot param <;> simp [fault?]

theorem slot_breach_iff (params : List ParamKind) (slot : Slot) (error : SignatureError) :
    slotBreach? params slot = some error ↔
      ∃ index param, (Slot.ofCount params.length)[index]? = some slot ∧ params[index]? = some param ∧
        param ≠ slot.kind ∧ error = .wrongParamType (index + 1) slot param.displayName := by
  simp only [slotBreach?, Option.bind_eq_some_iff, slot_index_iff, check_slot_fault_iff, exists_and_left]

theorem fault_check_params (params : List ParamKind) (returns : List ReturnKind) (rule : Rule) :
    fault? (checkParams params) =
      [.count, .slot .context, .slot .writer, .slot .request].findSome? (breach? returns params rule) := by
  simp only [find_some_cons, List.findSome?_nil, Option.or_none]
  match params with
  | [] => rfl
  | [_] => rfl
  | [writer, request] =>
    rw [checkParams, fault_sequence]
    rfl
  | [leading, writer, request] =>
    rw [checkParams, fault_sequence, fault_sequence]
    rfl
  | _ :: _ :: _ :: _ :: _ => simp [checkParams, breach?, fault?]

theorem fault_validate (sig : Signature) (rule : Rule) (skipReceiver : Bool) :
    fault? (sig.validate rule skipReceiver) =
      Requirement.all.findSome? (breach? sig.returns (sig.effectiveParams skipReceiver) rule) := by
  rw [validate, fault_sequence, fault_check_params _ sig.returns rule, Requirement.all,
    find_some_cons _ Requirement.function, find_some_cons _ Requirement.returns]
  rfl

end Signature

namespace Callable

def breach? (callable : Callable) (rule : Rule) (skipReceiver : Bool) (requirement : Requirement) :
    Option SignatureError :=
  match callable with
  | .function sig => Signature.breach? sig.returns (sig.effectiveParams skipReceiver) rule requirement
  | .value typeName => if requirement = .function then some (.notAFunction typeName) else none

theorem fault_validate (callable : Callable) (rule : Rule) (skipReceiver : Bool) :
    fault? (callable.validate rule skipReceiver) =
      Requirement.all.findSome? (callable.breach? rule skipReceiver) := by
  cases callable with
  | function sig => exact sig.fault_validate rule skipReceiver
  | value typeName => rfl

theorem breach_iff (callable : Callable) (rule : Rule) (skipReceiver : Bool) (requirement : Requirement)
    (error : SignatureError) :
    callable.breach? rule skipReceiver requirement = some error ↔
      callable.Breaks rule skipReceiver requirement error := by
  constructor
  · intro breach
    cases callable with
    | value typeName =>
      cases requirement <;> cases breach
      exact .function typeName rfl
    | function sig =>
      cases requirement with
      | function => cases breach
      | returns =>
        rcases (Signature.check_returns_fault_iff _ _ _).mp breach with ⟨differs, rfl⟩ | ⟨name, asked, single, rfl⟩
        · exact .returnArity sig rfl differs
        · exact .returnType sig rfl name asked single
      | count =>
        rw [breach?, Signature.breach?] at breach
        split at breach
        · cases breach
        · rename_i other
          cases breach
          exact .count sig rfl (not_or.mp other)
      | slot slot =>
        obtain ⟨index, param, expected, found, differs, rfl⟩ := (Signature.slot_breach_iff _ _ _).mp breach
        exact .slot sig rfl index slot param expected found differs
  · intro broken
    cases broken with
    | function typeName held => rw [held]; rfl
    | returnArity sig held differs =>
      rw [held]
      exact (Signature.check_returns_fault_iff _ _ _).mpr (.inl ⟨differs, rfl⟩)
    | returnType sig held name asked single =>
      rw [held]
      exact (Signature.check_returns_fault_iff _ _ _).mpr (.inr ⟨name, asked, single, rfl⟩)
    | count sig held other =>
      rw [held]
      exact if_neg (not_or.mpr other)
    | slot sig held index slot param expected found differs =>
      rw [held]
      exact (Signature.slot_breach_iff _ _ _).mpr ⟨index, param, expected, found, differs, rfl⟩

theorem validate_error_iff (callable : Callable) (rule : Rule) (skipReceiver : Bool) (error : SignatureError) :
    callable.validate rule skipReceiver = .error error ↔ callable.FirstBroken rule skipReceiver error := by
  have unbroken (requirement : Requirement) : callable.breach? rule skipReceiver requirement = none ↔
      ∀ fault, ¬ callable.Breaks rule skipReceiver requirement fault := by
    simp only [Option.eq_none_iff_forall_ne_some, Ne, breach_iff]
  rw [← fault_some_iff, fault_validate, List.findSome?_eq_some_iff, FirstBroken]
  simp only [breach_iff, unbroken]

end Callable

def WrongSlot (params : List ParamKind) (position : Nat) (slot : Slot) (actual : String) : Prop :=
  ∃ before later param after, Slot.ofCount params.length = before ++ slot :: later ∧
    params = before.map Slot.kind ++ param :: after ∧ param ≠ slot.kind ∧ position = before.length + 1 ∧
    actual = param.displayName

namespace Signature

theorem wrong_slot_of_fault (params : List ParamKind) (position : Nat) (slot : Slot) (actual : String)
    (fault : fault? (checkParams params) = some (.wrongParamType position slot actual)) :
    WrongSlot params position slot actual := by
  match params with
  | [] => cases fault
  | [_] => cases fault
  | [writer, request] =>
    rw [checkParams, fault_sequence] at fault
    simp only [Option.or_eq_some_iff, check_slot_fault_iff, check_slot_no_fault_iff,
      SignatureError.wrongParamType.injEq] at fault
    rcases fault with ⟨differs, rfl, rfl, rfl⟩ | ⟨rfl, differs, rfl, rfl, rfl⟩
    · exact ⟨[], [.request], writer, [request], rfl, rfl, differs, rfl, rfl⟩
    · exact ⟨[.writer], [], request, [], rfl, rfl, differs, rfl, rfl⟩
  | [leading, writer, request] =>
    rw [checkParams, fault_sequence, fault_sequence] at fault
    simp only [Option.or_eq_some_iff, check_slot_fault_iff, check_slot_no_fault_iff,
      SignatureError.wrongParamType.injEq] at fault
    rcases fault with ⟨differs, rfl, rfl, rfl⟩ | ⟨rfl, ⟨differs, rfl, rfl, rfl⟩ | ⟨rfl, differs, rfl, rfl, rfl⟩⟩
    · exact ⟨[], [.writer, .request], leading, [writer, request], rfl, rfl, differs, rfl, rfl⟩
    · exact ⟨[.context], [.request], writer, [request], rfl, rfl, differs, rfl, rfl⟩
    · exact ⟨[.context, .writer], [], request, [], rfl, rfl, differs, rfl, rfl⟩
  | _ :: _ :: _ :: _ :: _ => cases fault

end Signature

namespace Callable

theorem wrong_slot_described (callable : Callable) (rule : Rule) (skipReceiver : Bool) (position : Nat) (slot : Slot)
    (actual : String) (failed : callable.validate rule skipReceiver = .error (.wrongParamType position slot actual)) :
    ∃ sig, callable = .function sig ∧ WrongSlot (sig.effectiveParams skipReceiver) position slot actual := by
  cases callable with
  | value typeName => cases failed
  | function sig =>
    have fault := (fault_some_iff _ _).mpr failed
    rw [validate, Signature.validate, fault_sequence, Option.or_eq_some_iff] at fault
    rcases fault with returned | ⟨-, fault⟩
    · -- what is wrong with return values is never said of a parameter
      rcases (Signature.check_returns_fault_iff _ _ _).mp returned with ⟨-, other⟩ | ⟨_, -, -, other⟩ <;> cases other
    · exact ⟨sig, rfl, Signature.wrong_slot_of_fault _ _ _ _ fault⟩

theorem validation_names_first_broken (callable : Callable) (rule : Rule) (skipReceiver : Bool) :
    (callable.validate rule skipReceiver = .ok () ↔ callable.Conforms rule skipReceiver) ∧
    (∀ error, callable.validate rule skipReceiver = .error error ↔ callable.FirstBroken rule skipReceiver error) ∧
    ∀ position slot actual, callable.validate rule skipReceiver = .error (.wrongParamType position slot actual) →
      ∃ sig, callable = .function sig ∧ WrongSlot (sig.effectiveParams skipReceiver) position slot actual :=
  ⟨validate_iff_conforms callable rule skipReceiver, validate_error_iff callable rule skipReceiver,
    wrong_slot_described callable rule skipReceiver⟩

example : (Callable.function ⟨[.other "&self", .requestPointer, .responseWriter], [.bool]⟩).validate .handler true =
    .error (.wrongReturnArity 0 1) := rfl

end Callable

end ResourceRoutes
