import ResourceRoutes.Datum
import ResourceRoutes.Document
import ResourceRoutes.Resource
set_option autoImplicit false

namespace ResourceRoutes

-- A member that is given on its own is read strictly. One inside a resource is read leniently: an
-- empty table may stand where nothing is expected, and a list where the fields of a value are.
inductive Reading where
  | strict
  | lenient
deriving DecidableEq, Repr

def Reading.acceptsNothing (reading : Reading) : Option Datum → Bool
  | none => true
  | some .null => true
  | some (.table []) => reading == .lenient
  | some _ => false

namespace ParamKind

def caseNames : List String := ["Context", "ResponseWriter", "RequestPointer", "Other"]

def document : ParamKind → Document
  | .context => .text "Context"
  | .responseWriter => .text "ResponseWriter"
  | .requestPointer => .text "RequestPointer"
  | .other name => .record [("Other", .text name)]

def read (reading : Reading) (d : Datum) : Except ReadFault ParamKind := do
  let (name, body) ← ReadFault.require (d.case? caseNames)
  match name with
  | "Context" => if reading.acceptsNothing body then .ok .context else .error .malformed
  | "ResponseWriter" => if reading.acceptsNothing body then .ok .responseWriter else .error .malformed
  | "RequestPointer" => if reading.acceptsNothing body then .ok .requestPointer else .error .malformed
  | "Other" => do
    let body ← ReadFault.require body
    return .other (← Readable.text body)
  | _ => .error .malformed

end ParamKind

namespace ReturnKind

def caseNames : List String := ["Bool", "Other"]

def document : ReturnKind → Document
  | .bool => .text "Bool"
  | .other name => .record [("Other", .text name)]

def read (reading : Reading) (d : Datum) : Except ReadFault ReturnKind := do
  let (name, body) ← ReadFault.require (d.case? caseNames)
  match name with
  | "Bool" => if reading.acceptsNothing body then .ok .bool else .error .malformed
  | "Other" => do
    let body ← ReadFault.require body
    return .other (← Readable.text body)
  | _ => .error .malformed

end ReturnKind

namespace Signature

def fieldNames : List String := ["params", "returns"]

def document (sig : Signature) : Document :=
  .record [
    ("params", .list (sig.params.map ParamKind.document)),
    ("returns", .list (sig.returns.map ReturnKind.document))]

def read (reading : Reading) (d : Datum) : Except ReadFault Signature := do
  let fields ← Readable.fields fieldNames d
  let params ← fields.optional "params" [] (Readable.list (ParamKind.read reading))
  let returns ← fields.optional "returns" [] (Readable.list (ReturnKind.read reading))
  fields.checkSound
  return ⟨params, returns⟩

end Signature

namespace Callable

def caseNames : List String := ["Function", "Value"]

def document : Callable → Document
  | .function sig => .record [("Function", sig.document)]
  | .value typeName => .record [("Value", .record [("type_name", .text typeName)])]

def readValue (reading : Reading) (body : Datum) : Except ReadFault Callable := do
  match reading, body with
  | .strict, .list _ => .error .malformed
  | _, _ =>
    let fields ← Readable.fields ["type_name"] body
    let typeName ← fields.required "type_name" Readable.text
    fields.checkSound
    return .value typeName

def read (reading : Reading) (d : Datum) : Except ReadFault Callable := do
  let (name, body) ← ReadFault.require (d.case? caseNames)
  let body ← ReadFault.require body
  match name with
  | "Function" => (Signature.read reading body).map .function
  | "Value" => readValue reading body
  | _ => .error .malformed

end Callable

namespace Descriptor

def documentOfMethods (d : Descriptor) : Document :=
  .record (d.methods.map fun member => (member.1, member.2.document))

def readMethods (reading : Reading) (d : Datum) : Except ReadFault Descriptor :=
  match d with
  | .table entries => do
    let members ← entries.mapM fun entry => do
      let name ← Readable.text entry.1
      let callable ← Callable.read reading entry.2
      return (name, callable)
    return Descriptor.ofList members
  | _ => .error .malformed

def read (reading : Reading) (d : Datum) : Except ReadFault Descriptor := do
  let fields ← Readable.fields ["methods"] d
  let descriptor ← fields.optional "methods" Descriptor.empty (readMethods reading)
  fields.checkSound
  return descriptor

end Descriptor

namespace Resource

def document (resource : Resource) : Document :=
  .record [("name", .text resource.name), ("methods", resource.descriptor.documentOfMethods)]

def documents (resources : List Resource) : Document := .list (resources.map document)

variable {ν : Type} [Bufferable ν]

-- The name is read as a text of the format; all other fields are taken in whole, also those that
-- nobody asks for.
def read (v : ν) : Except ReadFault Resource := do
  let entries ← ReadFault.require (Bufferable.entries? v)
  let name ← Fields.required ⟨entries, true⟩ "name" Readable.text
  let others ← (entries.filter (·.1 != "name")).mapM fun entry => do
    let value ← ReadFault.require (Bufferable.datum? entry.2)
    return (entry.1, value)
  let descriptor ← Fields.optional ⟨others, true⟩ "methods" Descriptor.empty (Descriptor.readMethods .lenient)
  return ⟨name, descriptor⟩

def readAll (v : ν) : Except ReadFault (List Resource) := Readable.list read v

end Resource

end ResourceRoutes
