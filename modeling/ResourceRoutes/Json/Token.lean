set_option autoImplicit false

namespace ResourceRoutes.Json

inductive Token where
  | openArray
  | closeArray
  | openObject
  | closeObject
  | comma
  | colon
  | null
  | bool (value : Bool)
  | number (spelling : List Char)
  | string (spelling : List Char)
deriving DecidableEq, Repr

namespace Token

def isBlank (c : Char) : Bool := c == ' ' || c == '\n' || c == '\t' || c == '\r'

def isHexDigit (c : Char) : Bool := c.isDigit || ('a' ≤ c && c ≤ 'f') || ('A' ≤ c && c ≤ 'F')

def dropDigits? (cs : List Char) : Option (List Char) :=
  if (cs.head?.any Char.isDigit) then some (cs.dropWhile Char.isDigit) else none

def dropInteger? : List Char → Option (List Char)
  | '0' :: rest => some rest
  | cs => dropDigits? cs

def dropFraction? : List Char → Option (List Char)
  | '.' :: rest => dropDigits? rest
  | cs => some cs

def dropExponent? : List Char → Option (List Char)
  | 'e' :: rest | 'E' :: rest =>
    match rest with
    | '+' :: digits | '-' :: digits => dropDigits? digits
    | digits => dropDigits? digits
  | cs => some cs

def isNumber (cs : List Char) : Bool :=
  let unsigned := match cs with
    | '-' :: rest => rest
    | _ => cs
  (dropInteger? unsigned >>= dropFraction? >>= dropExponent?) == some []

def ofWord? (word : List Char) : Option Token :=
  if word = "null".toList then some .null
  else if word = "true".toList then some (.bool true)
  else if word = "false".toList then some (.bool false)
  else if isNumber word then some (.number word)
  else none

def ofPunctuation? : Char → Option Token
  | '[' => some .openArray
  | ']' => some .closeArray
  | '\x7b' => some .openObject
  | '\x7d' => some .closeObject
  | ',' => some .comma
  | ':' => some .colon
  | _ => none

def isWordChar (c : Char) : Bool := c.isAlphanum || c == '+' || c == '-' || c == '.'

inductive Mode where
  | between
  | word (read : List Char)
  | string (read : List Char)
  | escape (read : List Char)
  | code (read : List Char) (missing : Nat)
  | fault
deriving DecidableEq, Repr

structure Scan where
  mode : Mode := .between
  tokens : List Token := []
deriving DecidableEq, Repr

namespace Scan

def fail (scan : Scan) : Scan := { scan with mode := .fault }

def push (scan : Scan) : Option Token → Scan
  | some token => ⟨.between, token :: scan.tokens⟩
  | none => scan.fail

def endWord (scan : Scan) : Scan :=
  match scan.mode with
  | .word read => scan.push (ofWord? read.reverse)
  | _ => scan

def start (scan : Scan) (c : Char) : Scan :=
  if isBlank c then scan
  else if c = '"' then { scan with mode := .string [] }
  else if isWordChar c then { scan with mode := .word [c] }
  else scan.push (ofPunctuation? c)

def step (scan : Scan) (c : Char) : Scan :=
  match scan.mode with
  | .fault => scan
  | .between => scan.start c
  | .word read =>
    if isWordChar c then { scan with mode := .word (c :: read) }
    else
      let ended := scan.endWord
      if ended.mode = .fault then ended else ended.start c
  | .string read =>
    if c = '"' then scan.push (some (.string read.reverse))
    else if c = '\\' then { scan with mode := .escape (c :: read) }
    else if c.toNat < 0x20 then scan.fail
    else { scan with mode := .string (c :: read) }
  | .escape read =>
    if c = 'u' then { scan with mode := .code (c :: read) 4 }
    else if "\"\\/bfnrt".toList.contains c then { scan with mode := .string (c :: read) }
    else scan.fail
  | .code read missing =>
    if isHexDigit c then
      { scan with mode := if missing ≤ 1 then .string (c :: read) else .code (c :: read) (missing - 1) }
    else scan.fail

def finish (scan : Scan) : Scan :=
  let ended := scan.endWord
  if ended.mode = .between then ended else ended.fail

end Scan

def scan (cs : List Char) : List Token × Bool :=
  let done := (cs.foldl Scan.step {}).finish
  (done.tokens.reverse, done.mode == .between)

end Token

end ResourceRoutes.Json
