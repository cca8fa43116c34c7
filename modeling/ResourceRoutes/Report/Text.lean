import ResourceRoutes.Document.Format
import ResourceRoutes.Json.Readable
import ResourceRoutes.Json.Reader
import ResourceRoutes.Report.Record
import ResourceRoutes.Yaml.Readable
set_option autoImplicit false

namespace ResourceRoutes.Report

def render (format : DocumentFormat) (reports : List Report) : String := format.render (documents reports)

def ofText? (format : DocumentFormat) (text : String) : Option (List Report) :=
  match format with
  | .json => Json.read? text.toList >>= fun value => (readAll value).toOption
  | .yaml => Yaml.read? text.toList >>= fun tree => (readAll (Yaml.View.ofTree tree)).toOption

def survives (format : DocumentFormat) (reports : List Report) : Bool :=
  ofText? format (render format reports) == some reports

end ResourceRoutes.Report
