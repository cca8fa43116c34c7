import ResourceRoutes.Json
import ResourceRoutes.Json.Token
set_option autoImplicit false

/- Reading of JSON texts. The containers that are open are kept on a stack, so that also of a faulty
text the value is known as far as it was read. -/
namespace ResourceRoutes.Json

-- A container part way through, its last part first.
inductive Frame where
  | array (before : List Json)
  | object (before : List (List Char × Json)) (key : Option (List Char))
deriving Repr

inductive Awaited where
  | value
  | valueOrClose
  | keyOrClose
  | key
  | colon
  | commaOrClose
  | nothing
deriving DecidableEq, Repr

structure Reading where
  awaited : Awaited := .value
  frames : List Frame := []
  value? : Option Json := none
deriving Repr

namespace Reading

def put (frames : List Frame) (value : Json) : Reading :=
  match frames with
  | [] => ⟨.nothing, [], some value⟩
  | .array before :: outer => ⟨.commaOrClose, .array (value :: before) :: outer, none⟩
  | .object before (some key) :: outer => ⟨.commaOrClose, .object ((key, value) :: before) none :: outer, none⟩
  | .object before none :: outer => ⟨.commaOrClose, .object before none :: outer, none⟩

def beginValue? (frames : List Frame) : Token → Option Reading
  | .null => some (put frames .null)
  | .bool value => some (put frames (.bool value))
  | .number spelling => some (put frames (.number spelling))
  | .string spelling => some (put frames (.string spelling))
  | .openArray => some ⟨.valueOrClose, .array [] :: frames, none⟩
  | .openObject => some ⟨.keyOrClose, .object [] none :: frames, none⟩
  | _ => none

def close? : List Frame → Token → Option Reading
  | .array before :: outer, .closeArray => some (put outer (.array before.reverse))
  | .object before _ :: outer, .closeObject => some (put outer (.object before.reverse))
  | _, _ => none

def beginKey? : List Frame → Token → Option Reading
  | .object before _ :: outer, .string key => some ⟨.colon, .object before (some key) :: outer, none⟩
  | _, _ => none

def step? (reading : Reading) (token : Token) : Option Reading :=
  match reading.awaited, token with
  | .value, _ => beginValue? reading.frames token
  | .valueOrClose, .closeArray => close? reading.frames token
  | .valueOrClose, _ => beginValue? reading.frames token
  | .keyOrClose, .closeObject => close? reading.frames token
  | .keyOrClose, _ => beginKey? reading.frames token
  | .key, _ => beginKey? reading.frames token
  | .colon, .colon => some { reading with awaited := .value }
  | .commaOrClose, .comma =>
    match reading.frames with
    | .array _ :: _ => some { reading with awaited := .value }
    | _ => some { reading with awaited := .key }
  | .commaOrClose, _ => close? reading.frames token
  | _, _ => none

def run : Reading → List Token → Reading × Bool
  | reading, [] => (reading, true)
  | reading, token :: rest =>
    match reading.step? token with
    | some next => next.run rest
    | none => (reading, false)

def closeAll (inner : Option Json) : List Frame → Option Json
  | [] => inner
  | .array before :: outer => closeAll (some (.array (inner.toList ++ before).reverse)) outer
  | .object before key :: outer =>
    let last := match key, inner with
      | some key, some value => [(key, value)]
      | _, _ => []
    closeAll (some (.object (last ++ before).reverse)) outer

end Reading

inductive ReadResult where
  | whole (value : Json)
  -- The text is faulty; `seen` holds all that precedes the fault.
  | cut (seen : Option Json)
deriving Repr

def readResult (cs : List Char) : ReadResult :=
  let (tokens, clean) := Token.scan cs
  let (reading, fits) := Reading.run {} tokens
  match reading.value? with
  | some value => if clean && fits then .whole value else .cut (some value)
  | none => .cut (Reading.closeAll none reading.frames)

def read? (cs : List Char) : Option Json :=
  match readResult cs with
  | .whole value => some value
  | .cut _ => none

end ResourceRoutes.Json
