import ResourceRoutes.Yaml.Token.Scalar
set_option autoImplicit false

/- From a YAML text to its tokens. Indentation opens and closes blocks, and a value indicator makes a key
of what precedes it on its line: its tokens are put in front of tokens found earlier. -/
namespace ResourceRoutes.Yaml

-- A place among the tokens where a key may begin. A required key has to turn out as one.
structure PendingKey where
  position : Nat
  required : Bool
  index : Nat
  line : Nat
  column : Nat
deriving DecidableEq, Repr

-- Tokens found so far, the last one first. `indents` are the columns of the open blocks, the innermost
-- first; `key` may begin on this level of flow collections, and `outerKeys` on the levels around it.
structure Scan where
  at' : Cursor
  tokens : List Token := []
  indents : List Nat := []
  key : Option PendingKey := none
  outerKeys : List (Option PendingKey) := []
  keyAllowed : Bool := true
deriving Repr

namespace Scan

def inFlow (scan : Scan) : Bool := !scan.outerKeys.isEmpty

def emit (scan : Scan) (token : Token) : Scan := { scan with tokens := token :: scan.tokens }

def move (scan : Scan) (at' : Cursor) : Scan := { scan with at' }

def insert (scan : Scan) (position : Nat) (tokens : List Token) : Scan :=
  let later := scan.tokens.length - position
  { scan with tokens := scan.tokens.take later ++ tokens ++ scan.tokens.drop later }

def opensBlock (scan : Scan) (column : Nat) : Bool :=
  !scan.inFlow && scan.indents.head?.all (· < column)

def openBlock (scan : Scan) (token : Token) : Scan :=
  if scan.opensBlock scan.at'.column then
    { scan.emit token with indents := scan.at'.column :: scan.indents }
  else scan

def closeBlocks (scan : Scan) (column : Nat) : Scan :=
  if scan.inFlow then scan
  else
    let closed := (scan.indents.takeWhile (column < ·)).length
    { scan with
      tokens := List.replicate closed .blockEnd ++ scan.tokens
      indents := scan.indents.drop closed }

def closeAllBlocks (scan : Scan) : Scan :=
  if scan.inFlow then scan
  else { scan with tokens := List.replicate scan.indents.length .blockEnd ++ scan.tokens, indents := [] }

def dropKey? (scan : Scan) : Option Scan :=
  if scan.key.any (·.required) then none else some { scan with key := none }

def saveKey? (scan : Scan) : Option Scan :=
  if scan.keyAllowed then do
    let scan ← scan.dropKey?
    return { scan with
      key := some {
        position := scan.tokens.length
        required := !scan.inFlow && scan.indents.head? == some scan.at'.column
        index := scan.at'.index
        line := scan.at'.line
        column := scan.at'.column } }
  else some scan

-- A key stays on its line and within 1024 characters.
def refresh? (at' : Cursor) : Option PendingKey → Option (Option PendingKey)
  | none => some none
  | some key =>
    if key.line < at'.line ∨ key.index + 1024 < at'.index then if key.required then none else some none
    else some (some key)

def refreshKeys? (scan : Scan) : Option Scan := do
  let key ← refresh? scan.at' scan.key
  let outerKeys ← scan.outerKeys.mapM (refresh? scan.at')
  return { scan with key, outerKeys }

-- Passes blanks, breaks and comments. Tabs are blanks only where no key can begin; after a break outside
-- flow collections one can.
def skipGap : Nat → Scan → Scan
  | 0, scan => scan
  | fuel + 1, scan =>
    let at' := if scan.at'.index == 0 && scan.at'.rest.head? == some '\ufeff' then scan.at'.skip 1 else scan.at'
    let at' := at'.skipWhile fun c => c == ' ' || ((scan.inFlow || !scan.keyAllowed) && c == '\t')
    let at' := if at'.rest.head? == some '#' then at'.skipLine else at'
    if at'.rest.head?.any isBreak then
      skipGap fuel { scan with at' := at'.skipBreak, keyAllowed := scan.keyAllowed || !scan.inFlow }
    else { scan with at' }

def number? (at' : Cursor) : Option (Nat × Cursor) :=
  let (digits, next) := at'.span Char.isDigit
  if digits.isEmpty ∨ digits.length > 9 then none
  else some (digits.foldl (fun n c => 10 * n + (c.toNat - 48)) 0, next)

def version? (at' : Cursor) : Option (Token × Cursor) := do
  let (major, at') ← number? (at'.skipWhile isBlank)
  if at'.rest.head? = some '.' then
    let (minor, at') ← number? (at'.skip 1)
    return (.version major minor, at')
  else none

def handle? (inDirective : Bool) (at' : Cursor) : Option (List Char × Cursor) :=
  if at'.rest.head? = some '!' then
    let (name, next) := (at'.skip 1).span isNameChar
    if next.rest.head? = some '!' then some ('!' :: name ++ ['!'], next.skip 1)
    else if inDirective && !name.isEmpty then none
    else some ('!' :: name, next)
  else none

def isUriChar (verbatim : Bool) (c : Char) : Bool :=
  isNameChar c || ";/?:@&=+$.%!~*'()".toList.contains c || (verbatim && ",[]".toList.contains c)

def octetCount? (n : Nat) : Option Nat :=
  if n < 0x80 then some 1
  else if n < 0xC0 then none
  else if n < 0xE0 then some 2
  else if n < 0xF0 then some 3
  else if n < 0xF8 then some 4
  else none

-- Octets that are written in hexadecimal after percent signs; `pending` tells how many the character still
-- takes. Each octet is given as the character of its number.
def uri? (pending : Nat) : List Char → Option (List Char)
  | [] => if pending = 0 then some [] else none
  | '%' :: a :: b :: rest => do
    let octet := 16 * (← hexValue? a) + (← hexValue? b)
    if pending = 0 then
      let count ← octetCount? octet
      return Char.ofNat octet :: (← uri? (count - 1) rest)
    else if 0x80 ≤ octet ∧ octet < 0xC0 then return Char.ofNat octet :: (← uri? (pending - 1) rest)
    else none
  | '%' :: _ => none
  | c :: rest => if pending = 0 then (uri? 0 rest).map (c :: ·) else none

def uriText? (verbatim : Bool) (at' : Cursor) : Option (List Char × Cursor) := do
  let (raw, next) := at'.span (isUriChar verbatim)
  return (← uri? 0 raw, next)

def tagDirective? (at' : Cursor) : Option (Token × Cursor) := do
  let (handle, at') ← handle? true (at'.skipWhile isBlank)
  if at'.rest.head?.any isBlank then
    let (leading, at') ← uriText? true (at'.skipWhile isBlank)
    if leading.isEmpty || !gapFollows at'.rest then none
    else return (.tagHandle handle leading, at')
  else none

def directive? (at' : Cursor) : Option (Token × Cursor) := do
  let (name, at') := (at'.skip 1).span isNameChar
  if !gapFollows at'.rest then none
  else
    let (token, at') ←
      if name = "YAML".toList then version? at'
      else if name = "TAG".toList then tagDirective? at'
      else none
    return (token, ← at'.skipLineEnd?)

def endsName : List Char → Bool
  | [] => true
  | c :: _ => isBlank c || isBreak c || "?:,]\x7d%@`".toList.contains c

def anchorName? (at' : Cursor) : Option (List Char × Cursor) :=
  let (name, next) := (at'.skip 1).span isNameChar
  if name.isEmpty || !endsName next.rest then none else some (name, next)

def tagText? (at' : Cursor) : Option (Token × Cursor) :=
  if at'.rest[1]? = some '<' then do
    let (text, at') ← uriText? true (at'.skip 2)
    if text.isEmpty || at'.rest.head? != some '>' then none
    else return (.tag [] text, at'.skip 1)
  else do
    let (handle, at') ← handle? false at'
    let (ending, at') ← uriText? false at'
    if handle.length > 1 && handle.getLast? == some '!' then
      if ending.isEmpty then none else return (.tag handle ending, at')
    else
      let ending := handle.drop 1 ++ ending
      return (if ending.isEmpty then .tag [] ['!'] else .tag ['!'] ending, at')

def tag? (inFlow : Bool) (at' : Cursor) : Option (Token × Cursor) := do
  let (token, at') ← tagText? at'
  if (inFlow && at'.rest.head? == some ',') || gapFollows at'.rest then return (token, at') else none

def fetchKeyed? (scan : Scan) (read : Option (Token × Cursor)) : Option Scan := do
  let scan ← scan.saveKey?
  let (token, at') ← read
  return { scan.emit token with at', keyAllowed := false }

def fetchDirective? (scan : Scan) : Option Scan := do
  let scan ← scan.closeAllBlocks.dropKey?
  let (token, at') ← directive? scan.at'
  return { scan.emit token with at', keyAllowed := false }

def fetchDocumentMark? (scan : Scan) (token : Token) : Option Scan := do
  let scan ← scan.closeAllBlocks.dropKey?
  return { scan.emit token with at' := scan.at'.skip 3, keyAllowed := false }

def fetchFlowStart? (scan : Scan) (token : Token) : Option Scan := do
  let scan ← scan.saveKey?
  return { scan.emit token with
    at' := scan.at'.skip 1
    key := none
    outerKeys := scan.key :: scan.outerKeys
    keyAllowed := true }

def fetchFlowEnd? (scan : Scan) (token : Token) : Option Scan := do
  let scan ← scan.dropKey?
  let scan := { scan.emit token with at' := scan.at'.skip 1, keyAllowed := false }
  match scan.outerKeys with
  | [] => return scan
  | key :: outerKeys => return { scan with key, outerKeys }

def fetchFlowEntry? (scan : Scan) : Option Scan := do
  let scan ← scan.dropKey?
  return { scan.emit .flowEntry with at' := scan.at'.skip 1, keyAllowed := true }

def fetchBlockEntry? (scan : Scan) : Option Scan := do
  let scan ←
    if scan.inFlow then some scan
    else if scan.keyAllowed then some (scan.openBlock .blockSequenceStart)
    else none
  let scan ← scan.dropKey?
  return { scan.emit .blockEntry with at' := scan.at'.skip 1, keyAllowed := true }

def fetchKey? (scan : Scan) : Option Scan := do
  let scan ←
    if scan.inFlow then some scan
    else if scan.keyAllowed then some (scan.openBlock .blockMappingStart)
    else none
  let scan ← scan.dropKey?
  return { scan.emit .key with at' := scan.at'.skip 1, keyAllowed := !scan.inFlow }

def fetchValue? (scan : Scan) : Option Scan :=
  match scan.key with
  | some key =>
    let scan :=
      if scan.opensBlock key.column then
        { scan.insert key.position [.key, .blockMappingStart] with indents := key.column :: scan.indents }
      else scan.insert key.position [.key]
    some { scan.emit .value with at' := scan.at'.skip 1, key := none, keyAllowed := false }
  | none =>
    if scan.inFlow then
      some { scan.emit .value with at' := scan.at'.skip 1, keyAllowed := false }
    else if scan.keyAllowed then
      let scan := scan.openBlock .blockMappingStart
      some { scan.emit .value with at' := scan.at'.skip 1, keyAllowed := true }
    else none

def fetchBlockScalar? (scan : Scan) (style : Style) : Option Scan := do
  let scan ← scan.dropKey?
  let (text, at') ← blockText? style scan.indents.head? (scan.at'.skip 1)
  return { scan.emit (.scalar text style) with at', keyAllowed := true }

def fetchPlain? (scan : Scan) : Option Scan := do
  let scan ← scan.saveKey?
  let least := (scan.indents.head?.map (· + 1)).getD 0
  let plain ← plainText? scan.inFlow least (scan.at'.rest.length + 1) scan.at' [] {}
  return { scan.emit (.scalar plain.text .plain) with
    at' := plain.stop
    keyAllowed := plain.gap.leading.isSome }

def quoted (style : Style) (quote : Char) (at' : Cursor) : Option (Token × Cursor) :=
  (quotedText? quote at'.rest.length (at'.skip 1) []).map fun read => (.scalar read.1 style, read.2)

def isIndicator (c : Char) : Bool := isBlank c || "-?:,[]\x7b\x7d#&*!|>'\"%@`".toList.contains c

def beginsPlain (inFlow : Bool) (c : Char) (rest : List Char) : Bool :=
  !isIndicator c || (c == '-' && !rest.head?.any isBlank)
    || (!inFlow && (c == '?' || c == ':') && !gapFollows rest)

def fetch? (scan : Scan) (c : Char) (rest : List Char) : Option Scan :=
  let at' := scan.at'
  if at'.column == 0 && c == '%' then scan.fetchDirective?
  else if at'.marksDocument '-' then scan.fetchDocumentMark? .documentStart
  else if at'.marksDocument '.' then scan.fetchDocumentMark? .documentEnd
  else if c == '[' then scan.fetchFlowStart? .flowSequenceStart
  else if c == '\x7b' then scan.fetchFlowStart? .flowMappingStart
  else if c == ']' then scan.fetchFlowEnd? .flowSequenceEnd
  else if c == '\x7d' then scan.fetchFlowEnd? .flowMappingEnd
  else if c == ',' then scan.fetchFlowEntry?
  else if c == '-' && gapFollows rest then scan.fetchBlockEntry?
  else if c == '?' && (scan.inFlow || gapFollows rest) then scan.fetchKey?
  else if c == ':' && (scan.inFlow || gapFollows rest) then scan.fetchValue?
  else if c == '*' then scan.fetchKeyed? ((anchorName? at').map fun read => (.alias read.1, read.2))
  else if c == '&' then scan.fetchKeyed? ((anchorName? at').map fun read => (.anchor read.1, read.2))
  else if c == '!' then scan.fetchKeyed? (tag? scan.inFlow at')
  else if c == '|' && !scan.inFlow then scan.fetchBlockScalar? .literal
  else if c == '>' && !scan.inFlow then scan.fetchBlockScalar? .folded
  else if c == '\'' then scan.fetchKeyed? (quoted .singleQuoted '\'' at')
  else if c == '"' then scan.fetchKeyed? (quoted .doubleQuoted '"' at')
  else if beginsPlain scan.inFlow c rest then scan.fetchPlain?
  else none

def run? : Nat → Scan → Option (List Token)
  | 0, _ => none
  | fuel + 1, scan => do
    let scan ← (scan.skipGap (scan.at'.rest.length + 1)).refreshKeys?
    let scan := scan.closeBlocks scan.at'.column
    match scan.at'.rest with
    | [] =>
      let scan ← scan.closeAllBlocks.dropKey?
      return scan.tokens.reverse
    | c :: rest => run? fuel (← scan.fetch? c rest)

end Scan

def tokens? (cs : List Char) : Option (List Token) :=
  if cs.all isStreamChar then Scan.run? (cs.length + 1) { at' := ⟨cs, 0, 0, 0⟩ } else none

end ResourceRoutes.Yaml
