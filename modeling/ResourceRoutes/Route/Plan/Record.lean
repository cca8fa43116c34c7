import ResourceRoutes.Document
import ResourceRoutes.Exchange.Readable
import ResourceRoutes.Route.Plan
set_option autoImplicit false

/- Plans as records that are exchanged. The first fault in the order of the text wins, so the fields
are read in the order in which they stand. -/
namespace ResourceRoutes

variable {ν : Type} [Readable ν]

def ReadFault.named {α : Type} : Except RouteError α → Except ReadFault α
  | .ok a => .ok a
  | .error error => .error (.unknownName error)

def HandlerKind.read (v : ν) : Except ReadFault HandlerKind := do
  ReadFault.named (HandlerKind.ofName (← Readable.text v))

def HookKind.read (v : ν) : Except ReadFault HookKind := do
  ReadFault.named (HookKind.ofName (← Readable.text v))

def Method.read (v : ν) : Except ReadFault Method := do
  ReadFault.require (Method.ofString? (← Readable.text v))

def fill {α : Type} (held : Option α) (read : Except ReadFault α) : Except ReadFault (Option α) :=
  match held with
  | none => read.map some
  | some _ => .error .malformed

namespace PlannedRoute

def fieldNames : List String := ["handler", "method", "path", "params", "hooks"]

def document (route : PlannedRoute) : Document :=
  .record [
    ("handler", .text route.handler.name),
    ("method", .text route.method.token),
    ("path", .text route.path),
    ("params", .nat route.params),
    ("hooks", .list (route.hooks.map fun hook => .text hook.name))]

structure Draft where
  handler : Option HandlerKind := none
  method : Option Method := none
  path : Option String := none
  params : Option Nat := none
  hooks : Option (List HookKind) := none

def Draft.add (draft : Draft) (entry : String × ν) : Except ReadFault Draft :=
  match entry.1 with
  | "handler" => (fill draft.handler (HandlerKind.read entry.2)).map fun handler => { draft with handler }
  | "method" => (fill draft.method (Method.read entry.2)).map fun method => { draft with method }
  | "path" => (fill draft.path (Readable.text entry.2)).map fun path => { draft with path }
  | "params" => (fill draft.params (Readable.nat entry.2)).map fun params => { draft with params }
  | "hooks" => (fill draft.hooks (Readable.list HookKind.read entry.2)).map fun hooks => { draft with hooks }
  | _ => .ok draft

def Draft.complete? (draft : Draft) : Option PlannedRoute := do
  return ⟨← draft.handler, ← draft.method, ← draft.path, ← draft.params, ← draft.hooks⟩

def read (v : ν) : Except ReadFault PlannedRoute := do
  let fields ← Readable.fields fieldNames v
  let draft ← fields.entries.foldlM Draft.add {}
  fields.checkSound
  ReadFault.require draft.complete?

end PlannedRoute

namespace ResourcePlan

def fieldNames : List String := ["resource", "base", "routes"]

def document (plan : ResourcePlan) : Document :=
  .record [
    ("resource", .text plan.resource),
    ("base", .text plan.base),
    ("routes", .list (plan.routes.map PlannedRoute.document))]

def documents (plans : List ResourcePlan) : Document := .list (plans.map document)

structure Draft where
  resource : Option String := none
  base : Option String := none
  routes : Option (List PlannedRoute) := none

def Draft.add (draft : Draft) (entry : String × ν) : Except ReadFault Draft :=
  match entry.1 with
  | "resource" => (fill draft.resource (Readable.text entry.2)).map fun resource => { draft with resource }
  | "base" => (fill draft.base (Readable.text entry.2)).map fun base => { draft with base }
  | "routes" =>
    (fill draft.routes (Readable.list PlannedRoute.read entry.2)).map fun routes => { draft with routes }
  | _ => .ok draft

def Draft.complete? (draft : Draft) : Option ResourcePlan := do
  return ⟨← draft.resource, ← draft.base, ← draft.routes⟩

def read (v : ν) : Except ReadFault ResourcePlan := do
  let fields ← Readable.fields fieldNames v
  let draft ← fields.entries.foldlM Draft.add {}
  fields.checkSound
  ReadFault.require draft.complete?

def readAll (v : ν) : Except ReadFault (List ResourcePlan) := Readable.list read v

end ResourcePlan

end ResourceRoutes
