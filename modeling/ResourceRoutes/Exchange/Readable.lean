import ResourceRoutes.Route.Kind
set_option autoImplicit false

/- Reading of records out of values of some interchange format. A format says what its values are as
texts, numbers, truth values, lists and records; each record of the domain is then read once for all. -/
namespace ResourceRoutes

inductive ReadFault where
  | malformed
  | unknownName (error : RouteError)
deriving DecidableEq, Repr

-- The fields of a record in the order in which they are written, those nobody asks for included.
-- `sound` is false if something faulty follows them.
structure Fields (ν : Type) where
  entries : List (String × ν)
  sound : Bool := true
deriving Repr

class Readable (ν : Type) where
  text? : ν → Option String
  flag? : ν → Option Bool
  nat? : ν → Option Nat
  items? : ν → Option (List ν)
  fields? : List String → ν → Option (Fields ν)

def ReadFault.require {α : Type} : Option α → Except ReadFault α
  | some a => .ok a
  | none => .error .malformed

namespace Readable

variable {ν : Type} [Readable ν]

def text (v : ν) : Except ReadFault String := ReadFault.require (text? v)

def flag (v : ν) : Except ReadFault Bool := ReadFault.require (flag? v)

def nat (v : ν) : Except ReadFault Nat := ReadFault.require (nat? v)

def list {α : Type} (item : ν → Except ReadFault α) (v : ν) : Except ReadFault (List α) := do
  let items ← ReadFault.require (items? v)
  items.mapM item

def fields (names : List String) (v : ν) : Except ReadFault (Fields ν) := ReadFault.require (fields? names v)

end Readable

namespace Fields

variable {ν α : Type}

def once (fields : Fields ν) (name : String) : Except ReadFault (Option ν) :=
  match fields.entries.filter (·.1 == name) with
  | [] => .ok none
  | [entry] => .ok (some entry.2)
  | _ => .error .malformed

def required (fields : Fields ν) (name : String) (read : ν → Except ReadFault α) : Except ReadFault α := do
  let value ← fields.once name
  let value ← ReadFault.require value
  read value

def optional (fields : Fields ν) (name : String) (default : α) (read : ν → Except ReadFault α) :
    Except ReadFault α := do
  match ← fields.once name with
  | some value => read value
  | none => .ok default

def checkSound (fields : Fields ν) : Except ReadFault Unit :=
  if fields.sound then .ok () else .error .malformed

end Fields

end ResourceRoutes
