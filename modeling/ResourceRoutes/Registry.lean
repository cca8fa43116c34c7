import ResourceRoutes.Introspection
set_option autoImplicit false

namespace ResourceRoutes

open Log (Event)

structure Registry where
  resources : List Resource := []
deriving DecidableEq

namespace Registry

def register (registry : Registry) (resource : Resource) : Registry :=
  ⟨registry.resources ++ [resource]⟩

def extend (registry : Registry) (resources : List Resource) : Registry :=
  resources.foldl register registry

def size (registry : Registry) : Nat := registry.resources.length

def target : String := "restgen::registry"

def repeatedEvent (name : String) : Event where
  level := .warn
  target := target
  message := "resource registered more than once"
  fields := [("resource", .bare name)]

def registeredEvent (resource : Resource) : Event where
  level := .debug
  target := target
  message := "registered resource"
  fields := [("resource", .bare resource.name), ("methods", .count resource.descriptor.methods.length)]

def registerEvents (registry : Registry) (resource : Resource) : List Event :=
  (if registry.resources.any (·.name == resource.name) then [repeatedEvent resource.name] else [])
    ++ [registeredEvent resource]

def extendEvents (registry : Registry) : List Resource → List Event
  | [] => []
  | resource :: rest => registry.registerEvents resource ++ (registry.register resource).extendEvents rest

def reports (registry : Registry) : List Report :=
  registry.resources.map fun resource => introspect resource.name resource.descriptor

def completionEvent (reports : List Report) : Event where
  level := .info
  target := target
  message := "introspection complete"
  fields := [("resources", .count reports.length), ("warnings", .count (warningCount reports))]

def reportEvents (registry : Registry) : List Event :=
  (registry.resources.flatMap fun resource => introspectEvents resource.name resource.descriptor)
    ++ [completionEvent registry.reports]

end Registry

end ResourceRoutes
