import ResourceRoutes.Config
import ResourceRoutes.Files
set_option autoImplicit false

namespace ResourceRoutes

inductive ConfigFault where
  | unreadable (path : String) (fault : FileFault)
  | invalid (path : String)
deriving DecidableEq, Repr

def ConfigFault.message : ConfigFault → String
  | .unreadable path fault => s!"Failed to read config {path}: {fault.message}"
  | .invalid path => s!"Invalid config {path}"

namespace Config

def ofContent (path : String) (content : Except FileFault String) : Except ConfigFault Config :=
  match content with
  | .error fault => .error (.unreadable path fault)
  | .ok text =>
    match ofYaml? text with
    | some config => .ok config
    | none => .error (.invalid path)

variable {m : Type → Type} [Monad m]

def load (files : FileAccess m) (env : Environment) (path? : Option String) : m (Except ConfigFault Config) := do
  match path? with
  | none => return .ok (withEnvironment {} env)
  | some path => return (ofContent path (← files.readText path)).map (·.withEnvironment env)

end Config

end ResourceRoutes
