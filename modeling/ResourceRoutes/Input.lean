import ResourceRoutes.Files
import ResourceRoutes.Input.Path
import ResourceRoutes.Json.Datum
import ResourceRoutes.Json.Reader
import ResourceRoutes.Resource.Record
import ResourceRoutes.Source.Discovery
import ResourceRoutes.Yaml.Readable
set_option autoImplicit false

namespace ResourceRoutes

structure Input where
  moduleName : String
  resources : List Resource
deriving DecidableEq

inductive InputFault where
  | unsupported (path : String)
  | unreadableSource (path : String) (fault : FileFault)
  | invalidSource (path : String)
  | unreadableManifest (path : String) (fault : FileFault)
  | invalidManifest (path : String) (format : DocumentFormat)
deriving DecidableEq, Repr

namespace InputFault

def context : InputFault → String
  | .unsupported path => s!"Unsupported input {path}: expected a .rs, .json, .yaml or .yml file"
  | .unreadableSource path _ => s!"Failed to read {path}"
  | .invalidSource path => s!"Failed to parse {path}"
  | .unreadableManifest path _ => s!"Failed to read manifest {path}"
  | .invalidManifest path .json => s!"Invalid JSON manifest {path}"
  | .invalidManifest path .yaml => s!"Invalid YAML manifest {path}"

def message (fault : InputFault) : String :=
  match fault with
  | .unreadableSource _ cause | .unreadableManifest _ cause => s!"{fault.context}: {cause.message}"
  | .invalidSource _ => s!"{fault.context}: Parse error"
  | _ => fault.context

end InputFault

namespace Input

def resourcesOfManifest? (format : DocumentFormat) (text : String) : Option (List Resource) :=
  match format with
  | .json => Json.read? text.toList >>= fun value => (Resource.readAll value).toOption
  | .yaml => Yaml.read? text.toList >>= fun tree => (Resource.readAll (Yaml.View.ofTree tree)).toOption

def manifestFormat (path : String) : DocumentFormat :=
  if Kind.ofPath? path = some (.manifest .yaml) then .yaml else .json

def manifestOf (path : String) (content : Except FileFault String) : Except InputFault (List Resource) :=
  match content with
  | .error fault => .error (.unreadableManifest path fault)
  | .ok text =>
    match resourcesOfManifest? (manifestFormat path) text with
    | some resources => .ok resources
    | none => .error (.invalidManifest path (manifestFormat path))

def sourceOf (types : Source.TypeNames) (path : String) (content : Except FileFault String) :
    Except InputFault (List Resource × List Log.Event) :=
  match content with
  | .error fault => .error (.unreadableSource path fault)
  | .ok text =>
    match Source.itemsOfText? text.toList with
    | some items => .ok (Source.resourcesOfItems types items, Source.skippedEvents items)
    | none => .error (.invalidSource path)

def ofContent (types : Source.TypeNames) (path : String) (content : Except FileFault String) :
    Except InputFault (Input × List Log.Event) :=
  match Kind.ofPath? path with
  | none => .error (.unsupported path)
  | some .source => (sourceOf types path content).map fun found => (⟨moduleNameOf path, found.1⟩, found.2)
  | some (.manifest _) => (manifestOf path content).map fun resources => (⟨moduleNameOf path, resources⟩, [])

variable {m : Type → Type} [Monad m]

def loadManifest (files : FileAccess m) (path : String) : m (Except InputFault (List Resource)) :=
  return manifestOf path (← files.readText path)

def load (files : FileAccess m) (types : Source.TypeNames) (path : String) :
    m (Except InputFault (Input × List Log.Event)) :=
  return ofContent types path (← files.readText path)

end Input

end ResourceRoutes
