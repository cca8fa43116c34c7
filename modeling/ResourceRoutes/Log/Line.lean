import ResourceRoutes.Document
import ResourceRoutes.Log.Event
import ResourceRoutes.Text.Escaped
set_option autoImplicit false

namespace ResourceRoutes.Log

def isCommanding (c : Char) : Bool :=
  ['\x07', '\x08', '\x0c', '\x1b', '\x7f'].contains c || (0x80 ≤ c.toNat && c.toNat ≤ 0x9F)

def guardChar (c : Char) : List Char :=
  if !isCommanding c then [c]
  else if c.toNat < 0x80 then '\\' :: 'x' :: Nat.toDigits 16 (c.toNat / 16) ++ Nat.toDigits 16 (c.toNat % 16)
  else Text.codePointEscape c

def guarded (text : String) : List Char := text.toList.flatMap guardChar

namespace FieldValue

def document : FieldValue → Document
  | .bare text => .text text
  | .quoted text => .text text
  | .count n => .nat n

def shown : FieldValue → List Char
  | .bare text => guarded text
  | .quoted text => Text.quoted text.toList
  | .count n => Nat.toDigits 10 n

end FieldValue

namespace Event

def document (event : Event) : Document :=
  .record [
    ("level", .text event.level.name),
    ("fields", .record (("message", .text event.message) ::
      event.fields.map fun field => (field.1, field.2.document))),
    ("target", .text event.target)]

def line (event : Event) : String :=
  String.ofList <| event.level.name.toList ++ ' ' :: guarded event.message ++
    event.fields.flatMap fun field => ' ' :: field.1.toList ++ '=' :: field.2.shown

end Event

end ResourceRoutes.Log
