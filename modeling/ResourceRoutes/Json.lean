import ResourceRoutes.Decimal
import ResourceRoutes.Document
import ResourceRoutes.Json.Text
set_option autoImplicit false

/- JSON values as they are written. Numbers and strings keep their spelling, so what nobody asks for
is never judged by its meaning. -/
namespace ResourceRoutes

inductive Json where
  | null
  | bool (value : Bool)
  | number (spelling : List Char)
  | string (spelling : List Char)
  | array (items : List Json)
  | object (members : List (List Char × Json))
deriving Repr

namespace Json

def ofNat (n : Nat) : Json := .number (Nat.toDigits 10 n)

def ofString (s : String) : Json := .string (Text.escape s.toList)

def decode? (spelling : List Char) : Option String := (Text.unescape? spelling).map String.ofList

def text? : Json → Option String
  | .string spelling => decode? spelling
  | _ => none

def flag? : Json → Option Bool
  | .bool value => some value
  | _ => none

def nat? : Json → Option Nat
  | .number spelling =>
    let n := Decimal.digitsValue spelling
    if spelling.all Char.isDigit && n < natBound then some n else none
  | _ => none

def items? : Json → Option (List Json)
  | .array items => some items
  | _ => none

def members? : Json → Option (List (String × Json))
  | .object members => members.mapM fun member => (decode? member.1).map (·, member.2)
  | _ => none

mutual
def ofDocument : Document → Json
  | .text content => ofString content
  | .nat n => ofNat n
  | .flag value => .bool value
  | .list items => .array (ofDocuments items)
  | .record fields => .object (ofFields fields)

def ofDocuments : List Document → List Json
  | [] => []
  | item :: rest => ofDocument item :: ofDocuments rest

def ofFields : List (String × Document) → List (List Char × Json)
  | [] => []
  | (name, value) :: rest => (Text.escape name.toList, ofDocument value) :: ofFields rest
end

end Json

end ResourceRoutes
