import ResourceRoutes.Datum
import ResourceRoutes.Decimal
import ResourceRoutes.Json.Readable
set_option autoImplicit false

namespace ResourceRoutes.Json

def datum? : Nat → Json → Option Datum
  | _, .null => some .null
  | _, .bool value => some (.flag value)
  | _, .number spelling =>
    match (Json.number spelling).nat? with
    | some n => some (.nat n)
    | none => if (Decimal.ofSpelling spelling).isFinite then some .other else none
  | _, .string spelling => (decode? spelling).map .text
  | 0, .array _ => none
  | room + 1, .array items => (items.mapM (datum? room)).map .list
  | 0, .object _ => none
  | room + 1, .object members =>
    (members.mapM fun (key, value) => do
      let key ← decode? key
      let value ← datum? room value
      return (Datum.text key, value)).map .table

def depthLimit : Nat := 127

instance : Bufferable Json where
  entries? := members?
  datum? := datum? (depthLimit - 2)

end ResourceRoutes.Json
