import ResourceRoutes.Exchange.Readable
set_option autoImplicit false

namespace ResourceRoutes.Source

structure TypeNames where
  context : String := "RoutingContext"
  responseWriter : String := "ResponseWriter"
  request : String := "Request"
deriving DecidableEq, Repr

namespace TypeNames

def fieldNames : List String := ["context", "response_writer", "request"]

variable {ν : Type} [Readable ν]

def read (v : ν) : Except ReadFault TypeNames := do
  let fields ← Readable.fields fieldNames v
  let defaults : TypeNames := {}
  let context ← fields.optional "context" defaults.context Readable.text
  let responseWriter ← fields.optional "response_writer" defaults.responseWriter Readable.text
  let request ← fields.optional "request" defaults.request Readable.text
  fields.checkSound
  return { context, responseWriter, request }

end TypeNames

end ResourceRoutes.Source
