import ResourceRoutes.Json.Printer
import ResourceRoutes.Yaml.Printer
set_option autoImplicit false

namespace ResourceRoutes

inductive DocumentFormat where
  | json
  | yaml
deriving DecidableEq, Repr

namespace DocumentFormat

def name : DocumentFormat → String
  | .json => "json"
  | .yaml => "yaml"

def ofName? : String → Option DocumentFormat
  | "json" => some .json
  | "yaml" => some .yaml
  | _ => none

def render : DocumentFormat → Document → String
  | .json => Json.render
  | .yaml => Yaml.render

end DocumentFormat

end ResourceRoutes
