import ResourceRoutes.Log.Event
import ResourceRoutes.Route.Path
set_option autoImplicit false

namespace ResourceRoutes

open Log (Event)

structure PlannedRoute where
  handler : HandlerKind
  method : Method
  path : String
  params : Nat
  hooks : List HookKind
deriving DecidableEq

structure ResourcePlan where
  resource : String
  base : String
  routes : List PlannedRoute
deriving DecidableEq

def defaultUrlPrefix : String := "/api"

def normalizePrefix (urlPrefix : String) : String :=
  let trimmed := (urlPrefix.toList.reverse.dropWhile (· == '/')).reverse
  match trimmed with
  | [] => ""
  | '/' :: _ => String.ofList trimmed
  | _ => String.ofList ('/' :: trimmed)

def planRoute (report : Report) (base : String) (record : HandlerRecord) : Except RouteError PlannedRoute :=
  (HandlerKind.ofName record.name).map fun kind =>
    { handler := kind
      method := kind.method
      path := base ++ "/" ++ kind.url report.structName
      params := record.params
      hooks := kind.hookChain report }

def planResource (base : String) (report : Report) : Except RouteError ResourcePlan :=
  (report.handlers.mapM (planRoute report base)).map fun routes =>
    ⟨report.structName, basePath report.structName, routes⟩

def planRoutes (reports : List Report) (urlPrefix : String) : Except RouteError (List ResourcePlan) :=
  reports.mapM (planResource (normalizePrefix urlPrefix))

def plannedEvent (resource : String) (route : PlannedRoute) : Event where
  level := .debug
  target := "restgen::routes::plan"
  message := "planned route"
  fields := [("resource", .bare resource), ("handler", .bare route.handler.name),
    ("method", .bare route.method.token), ("path", .bare route.path)]

def planEvents (plans : List ResourcePlan) : List Event :=
  plans.flatMap fun plan => plan.routes.map (plannedEvent plan.resource)

end ResourceRoutes
