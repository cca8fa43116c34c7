import ResourceRoutes.Log.Event
import ResourceRoutes.Report
import ResourceRoutes.Resource
import ResourceRoutes.Signature.Validation
set_option autoImplicit false

namespace ResourceRoutes

open Log (Event)

inductive Finding where
  | absent
  | accepted (params : Nat)
  | rejected (error : SignatureError)
deriving DecidableEq, Repr

namespace Finding

def params? : Finding → Option Nat
  | .accepted params => some params
  | _ => none

def error? : Finding → Option SignatureError
  | .rejected error => some error
  | _ => none

end Finding

def warningText (method : String) (error : SignatureError) : String :=
  s!"method '{method}' is present but invalid: {error.message}"

namespace Descriptor

-- Members always carry their receiver, so the first parameter does not count.
def finding (d : Descriptor) (method : String) (rule : Rule) : Finding :=
  match d.get? method with
  | none => .absent
  | some callable =>
    match callable.validate rule true with
    | .ok () => .accepted ((callable.signature?.map (·.arity - 1)).getD 0)
    | .error error => .rejected error

def handlerFinding (d : Descriptor) (kind : HandlerKind) : Finding := d.finding kind.name .handler

def hookFinding (d : Descriptor) (hook : HookKind) : Finding := d.finding hook.name .hook

end Descriptor

def introspect (name : String) (d : Descriptor) : Report where
  structName := name
  handlers := HandlerKind.all.filterMap fun kind =>
    (d.handlerFinding kind).params?.map fun params => ⟨kind.name, params⟩
  hasBeforeOne := (d.hookFinding .beforeOne).params?.isSome
  hasBeforeMany := (d.hookFinding .beforeMany).params?.isSome
  hasBeforeAll := (d.hookFinding .beforeAll).params?.isSome
  warnings :=
    (HandlerKind.all.filterMap fun kind => (d.handlerFinding kind).error?.map (warningText kind.name)) ++
    (HookKind.all.filterMap fun hook => (d.hookFinding hook).error?.map (warningText hook.name))

def introspectionTarget : String := "restgen::resource::introspect"

def rejectionEvent (resource method : String) (error : SignatureError) : Event where
  level := .warn
  target := introspectionTarget
  message := s!"method is present but invalid: {error.message}"
  fields := [("resource", .bare resource), ("method", .quoted method), ("kind", .quoted error.kind)]

def handlerEvent (resource : String) (kind : HandlerKind) : Finding → Option Event
  | .absent => none
  | .accepted params => some {
      level := .debug
      target := introspectionTarget
      message := "found handler"
      fields := [("resource", .quoted resource), ("handler", .bare kind.name), ("params", .count params)] }
  | .rejected error => some (rejectionEvent resource kind.name error)

def hookEvent (resource : String) (hook : HookKind) : Finding → Option Event
  | .absent => none
  | .accepted _ => some {
      level := .debug
      target := introspectionTarget
      message := "found before hook"
      fields := [("resource", .quoted resource), ("hook", .bare hook.name)] }
  | .rejected error => some (rejectionEvent resource hook.name error)

def introspectEvents (name : String) (d : Descriptor) : List Event :=
  (HandlerKind.all.filterMap fun kind => handlerEvent name kind (d.handlerFinding kind)) ++
  (HookKind.all.filterMap fun hook => hookEvent name hook (d.hookFinding hook))

end ResourceRoutes
