set_option autoImplicit false

namespace ResourceRoutes

inductive RouteError where
  | unknownHandler (name : String)
  | unknownHook (name : String)
deriving DecidableEq, Repr

def RouteError.message : RouteError → String
  | .unknownHandler name => s!"unknown function name: {name}"
  | .unknownHook name => s!"unknown before function: {name}"

inductive HandlerKind where
  | deleteOne
  | deleteMany
  | getMany
  | getOne
  | patch
  | post
  | put
deriving DecidableEq, Repr

namespace HandlerKind

def all : List HandlerKind := [.deleteOne, .deleteMany, .getMany, .getOne, .patch, .post, .put]

def name : HandlerKind → String
  | .deleteOne => "DeleteOne"
  | .deleteMany => "DeleteMany"
  | .getMany => "GetMany"
  | .getOne => "GetOne"
  | .patch => "Patch"
  | .post => "Post"
  | .put => "Put"

def ofName (name : String) : Except RouteError HandlerKind :=
  match all.find? (·.name == name) with
  | some kind => .ok kind
  | none => .error (.unknownHandler name)

theorem ofName_name (kind : HandlerKind) : ofName kind.name = .ok kind := by cases kind <;> rfl

end HandlerKind

inductive HookKind where
  | beforeOne
  | beforeMany
  | beforeAll
deriving DecidableEq, Repr

namespace HookKind

def all : List HookKind := [.beforeOne, .beforeMany, .beforeAll]

def name : HookKind → String
  | .beforeOne => "BeforeOne"
  | .beforeMany => "BeforeMany"
  | .beforeAll => "BeforeAll"

def ofName (name : String) : Except RouteError HookKind :=
  match all.find? (·.name == name) with
  | some kind => .ok kind
  | none => .error (.unknownHook name)

theorem ofName_name (kind : HookKind) : ofName kind.name = .ok kind := by cases kind <;> rfl

end HookKind

end ResourceRoutes
