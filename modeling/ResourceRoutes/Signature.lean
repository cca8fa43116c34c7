set_option autoImplicit false

namespace ResourceRoutes

inductive ParamKind where
  | context
  | responseWriter
  | requestPointer
  | other (name : String)
deriving DecidableEq, Repr

def ParamKind.displayName : ParamKind → String
  | .context => "RoutingContext"
  | .responseWriter => "&mut ResponseWriter"
  | .requestPointer => "&Request"
  | .other name => name

inductive ReturnKind where
  | bool
  | other (name : String)
deriving DecidableEq, Repr

def ReturnKind.displayName : ReturnKind → String
  | .bool => "bool"
  | .other name => name

structure Signature where
  params : List ParamKind
  returns : List ReturnKind
deriving DecidableEq, Repr

namespace Signature

def arity (sig : Signature) : Nat := sig.params.length

def effectiveParams (sig : Signature) (skipReceiver : Bool) : List ParamKind :=
  if skipReceiver then sig.params.drop 1 else sig.params

def ofHandler (params : List ParamKind) : Signature := ⟨params, []⟩

def ofHook (params : List ParamKind) : Signature := ⟨params, [.bool]⟩

end Signature

inductive Callable where
  | function (sig : Signature)
  | value (typeName : String)
deriving DecidableEq, Repr

def Callable.signature? : Callable → Option Signature
  | .function sig => some sig
  | .value _ => none

end ResourceRoutes
