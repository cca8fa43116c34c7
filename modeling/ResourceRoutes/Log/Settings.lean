import ResourceRoutes.Environment
import ResourceRoutes.Log.Event
import ResourceRoutes.Text.Casing
set_option autoImplicit false

namespace ResourceRoutes.Log

inductive Format where
  | json
  | pretty
deriving DecidableEq, Repr

namespace Format

def name : Format → String
  | .json => "json"
  | .pretty => "pretty"

def ofText (text : String) : Format := if Text.lowercase text = "json" then .json else .pretty

end Format

def Level.ofText (text : String) : Level :=
  match Text.lowercase text with
  | "trace" => .trace
  | "debug" => .debug
  | "info" => .info
  | "error" => .error
  | _ => .warn

structure Settings where
  levelText : String := "warn"
  format : Format := .pretty
  targetFilter : Option String := none
deriving DecidableEq, Repr

namespace Settings

def level (settings : Settings) : Level := Level.ofText settings.levelText

def verbose (settings : Settings) : Settings :=
  if settings.level.rank < Level.info.rank then { settings with levelText := "info" } else settings

def ofEnvironment (env : Environment) : Settings :=
  let defaults : Settings := {}
  { levelText := (env.get? "RESTGEN_LOG_LEVEL").getD defaults.levelText
    format := ((env.get? "RESTGEN_LOG_FORMAT").map Format.ofText).getD defaults.format
    targetFilter := env.get? "RESTGEN_LOG_TARGET_FILTER" }

end Settings

end ResourceRoutes.Log
