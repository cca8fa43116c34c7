import ResourceRoutes.Route.Kind
set_option autoImplicit false

namespace ResourceRoutes

structure HandlerRecord where
  name : String
  params : Nat
deriving DecidableEq, Repr

structure Report where
  structName : String
  handlers : List HandlerRecord := []
  hasBeforeOne : Bool := false
  hasBeforeMany : Bool := false
  hasBeforeAll : Bool := false
  warnings : List String := []
deriving DecidableEq, Repr

namespace Report

def hasHook (report : Report) : HookKind → Bool
  | .beforeOne => report.hasBeforeOne
  | .beforeMany => report.hasBeforeMany
  | .beforeAll => report.hasBeforeAll

def setHook (report : Report) (hook : HookKind) (present : Bool) : Report :=
  match hook with
  | .beforeOne => { report with hasBeforeOne := present }
  | .beforeMany => { report with hasBeforeMany := present }
  | .beforeAll => { report with hasBeforeAll := present }

def pushHandler (report : Report) (record : HandlerRecord) : Report :=
  { report with handlers := report.handlers ++ [record] }

def handler? (report : Report) (name : String) : Option HandlerRecord :=
  report.handlers.find? (·.name == name)

def handlerSummary (report : Report) : String :=
  ", ".intercalate (report.handlers.map fun record => s!"{record.name}/{record.params}")

end Report

def warningCount (reports : List Report) : Nat := (reports.flatMap (·.warnings)).length

end ResourceRoutes
