import ResourceRoutes.Exchange.Readable
import ResourceRoutes.Json
set_option autoImplicit false

namespace ResourceRoutes.Json

def fields? (names : List String) : Json → Option (Fields Json)
  | .object members =>
    let decoded := members.map fun member => (decode? member.1).map (·, member.2)
    some ⟨(decoded.takeWhile Option.isSome).filterMap id, decoded.all Option.isSome⟩
  | .array items => some ⟨names.zip items, items.length ≤ names.length⟩
  | _ => none

instance : Readable Json where
  text? := text?
  flag? := flag?
  nat? := nat?
  items? := items?
  fields? := fields?

end ResourceRoutes.Json
