import ResourceRoutes.Exchange.Readable
set_option autoImplicit false

namespace ResourceRoutes

-- A scalar that is no text, truth value, null or natural number of 64 bits is `other`. Keys of a table
-- are any values.
inductive Datum where
  | null
  | flag (value : Bool)
  | nat (n : Nat)
  | other
  | text (content : String)
  | list (items : List Datum)
  | table (entries : List (Datum × Datum))
deriving Repr

namespace Datum

def text? : Datum → Option String
  | .text content => some content
  | _ => none

def flag? : Datum → Option Bool
  | .flag value => some value
  | _ => none

def nat? : Datum → Option Nat
  | .nat n => some n
  | _ => none

def items? : Datum → Option (List Datum)
  | .list items => some items
  | _ => none

def fieldName? (names : List String) : Datum → Option String
  | .text content => some content
  | .nat n => some (names[n]?.getD "")
  | _ => none

def fields? (names : List String) : Datum → Option (Fields Datum)
  | .list items => some ⟨names.zip items, items.length ≤ names.length⟩
  | .table entries =>
    let named := entries.map fun entry => (entry.1.fieldName? names).map (·, entry.2)
    some ⟨named.filterMap id, named.all Option.isSome⟩
  | _ => none

instance : Readable Datum where
  text? := text?
  flag? := flag?
  nat? := nat?
  items? := items?
  fields? := fields?

def case? (names : List String) : Datum → Option (String × Option Datum)
  | .text content => some (content, none)
  | .table [(key, body)] => (key.fieldName? names).map (·, some body)
  | _ => none

end Datum

class Bufferable (ν : Type) extends Readable ν where
  entries? : ν → Option (List (String × ν))
  -- The value as a field of a resource in a list. It may not be nested too deeply.
  datum? : ν → Option Datum

end ResourceRoutes
