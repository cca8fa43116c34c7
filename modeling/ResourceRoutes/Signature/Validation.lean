import ResourceRoutes.Signature
set_option autoImplicit false

namespace ResourceRoutes

inductive Rule where
  | handler
  | hook
deriving DecidableEq, Repr

def Rule.returns : Rule → List ReturnKind
  | .handler => []
  | .hook => [.bool]

inductive Slot where
  | context
  | writer
  | request
deriving DecidableEq, Repr

namespace Slot

def kind : Slot → ParamKind
  | .context => .context
  | .writer => .responseWriter
  | .request => .requestPointer

def typeName (slot : Slot) : String := slot.kind.displayName

end Slot

-- Positions count from one, among the effective parameters.
inductive SignatureError where
  | notAFunction (actual : String)
  | wrongReturnArity (expected actual : Nat)
  | wrongReturnType (expected actual : String)
  | wrongParamCount (actual : Nat)
  | wrongParamType (position : Nat) (expected : Slot) (actual : String)
deriving DecidableEq, Repr

namespace SignatureError

def kind : SignatureError → String
  | .notAFunction _ => "NotAFunction"
  | .wrongReturnArity _ _ => "WrongReturnArity"
  | .wrongReturnType _ _ => "WrongReturnType"
  | .wrongParamCount _ => "WrongParamCount"
  | .wrongParamType _ _ _ => "WrongParamType"

def message : SignatureError → String
  | .notAFunction actual => s!"not a function: {actual}"
  | .wrongReturnArity expected actual => s!"function should have {expected} return value(s), not {actual}"
  | .wrongReturnType expected actual => s!"return value should be {expected}, not {actual}"
  | .wrongParamCount actual => s!"wrong number of parameters: {actual}"
  | .wrongParamType position .context actual =>
    s!"param {position} (for 3-argument function) should be {Slot.context.typeName}, not {actual}"
  | .wrongParamType position expected actual =>
    s!"param {position} should be {expected.typeName}, not {actual}"

end SignatureError

namespace Signature

def checkReturns (returns : List ReturnKind) : Rule → Except SignatureError Unit
  | .handler => if returns.isEmpty then .ok () else .error (.wrongReturnArity 0 returns.length)
  | .hook =>
    match returns with
    | [.bool] => .ok ()
    | [other] => .error (.wrongReturnType ReturnKind.bool.displayName other.displayName)
    | _ => .error (.wrongReturnArity 1 returns.length)

def checkSlot (position : Nat) (slot : Slot) (param : ParamKind) : Except SignatureError Unit :=
  if param = slot.kind then .ok () else .error (.wrongParamType position slot param.displayName)

def checkParams : List ParamKind → Except SignatureError Unit
  | [writer, request] => do
    checkSlot 1 .writer writer
    checkSlot 2 .request request
  | [leading, writer, request] => do
    checkSlot 1 .context leading
    checkSlot 2 .writer writer
    checkSlot 3 .request request
  | params => .error (.wrongParamCount params.length)

def validate (sig : Signature) (rule : Rule) (skipReceiver : Bool) : Except SignatureError Unit := do
  checkReturns sig.returns rule
  checkParams (sig.effectiveParams skipReceiver)

end Signature

namespace Callable

def validate (callable : Callable) (rule : Rule) (skipReceiver : Bool) : Except SignatureError Unit :=
  match callable with
  | .function sig => sig.validate rule skipReceiver
  | .value typeName => .error (.notAFunction typeName)

def shapes : List (List ParamKind) :=
  [[.context, .responseWriter, .requestPointer], [.responseWriter, .requestPointer]]

def Conforms (callable : Callable) (rule : Rule) (skipReceiver : Bool) : Prop :=
  ∃ sig, callable = .function sig ∧ sig.effectiveParams skipReceiver ∈ shapes ∧ sig.returns = rule.returns

end Callable

end ResourceRoutes
