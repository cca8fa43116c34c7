import ResourceRoutes.Document
import ResourceRoutes.Exchange.Readable
import ResourceRoutes.Report
set_option autoImplicit false

namespace ResourceRoutes

namespace HandlerRecord

def fieldNames : List String := ["Name", "Params"]

def document (record : HandlerRecord) : Document :=
  .record [("Name", .text record.name), ("Params", .nat record.params)]

variable {ν : Type} [Readable ν]

def read (v : ν) : Except ReadFault HandlerRecord := do
  let fields ← Readable.fields fieldNames v
  let name ← fields.required "Name" Readable.text
  let params ← fields.required "Params" Readable.nat
  fields.checkSound
  return ⟨name, params⟩

end HandlerRecord

namespace Report

def fieldNames : List String :=
  ["StructName", "Handlers", "HasBeforeOne", "HasBeforeMany", "HasBeforeAll", "Warnings"]

def document (report : Report) : Document :=
  .record [
    ("StructName", .text report.structName),
    ("Handlers", .list (report.handlers.map HandlerRecord.document)),
    ("HasBeforeOne", .flag report.hasBeforeOne),
    ("HasBeforeMany", .flag report.hasBeforeMany),
    ("HasBeforeAll", .flag report.hasBeforeAll),
    ("Warnings", .list (report.warnings.map .text))]

def documents (reports : List Report) : Document := .list (reports.map document)

variable {ν : Type} [Readable ν]

def read (v : ν) : Except ReadFault Report := do
  let fields ← Readable.fields fieldNames v
  let structName ← fields.required "StructName" Readable.text
  let handlers ← fields.optional "Handlers" [] (Readable.list HandlerRecord.read)
  let hasBeforeOne ← fields.optional "HasBeforeOne" false Readable.flag
  let hasBeforeMany ← fields.optional "HasBeforeMany" false Readable.flag
  let hasBeforeAll ← fields.optional "HasBeforeAll" false Readable.flag
  let warnings ← fields.optional "Warnings" [] (Readable.list Readable.text)
  fields.checkSound
  return { structName, handlers, hasBeforeOne, hasBeforeMany, hasBeforeAll, warnings }

def readAll (v : ν) : Except ReadFault (List Report) := Readable.list read v

end Report

end ResourceRoutes
