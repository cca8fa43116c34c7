import ResourceRoutes.Yaml.Cursor
import ResourceRoutes.Yaml.Token
set_option autoImplicit false

namespace ResourceRoutes.Yaml

-- Blanks and breaks between two words. `leading` is the first break, and empty for a break that is escaped;
-- `trailing` holds all further breaks.
structure Gap where
  blanks : List Char := []
  leading : Option (List Char) := none
  trailing : List Char := []
deriving DecidableEq, Repr

namespace Gap

def text (gap : Gap) : List Char :=
  match gap.leading with
  | none => gap.blanks
  | some ['\n'] => if gap.trailing.isEmpty then [' '] else gap.trailing
  | some first => first ++ gap.trailing

def addBlank (gap : Gap) (c : Char) : Gap :=
  if gap.leading.isNone then { gap with blanks := gap.blanks ++ [c] } else gap

def addBreak (gap : Gap) (cs : List Char) : Gap :=
  match gap.leading with
  | none => ⟨[], some cs, []⟩
  | some _ => { gap with trailing := gap.trailing ++ cs }

def read? (least : Nat) : Nat → Cursor → Gap → Option (Gap × Cursor)
  | 0, at', gap => some (gap, at')
  | fuel + 1, at', gap =>
    match at'.rest with
    | [] => some (gap, at')
    | c :: _ =>
      if isBlank c then
        if c = '\t' ∧ gap.leading.isSome ∧ at'.column < least then none
        else read? least fuel (at'.skip 1) (gap.addBlank c)
      else if isBreak c then
        let (cs, next) := at'.readBreak
        read? least fuel next (gap.addBreak cs)
      else some (gap, at')

def readQuoted (at' : Cursor) (gap : Gap) : Gap × Cursor :=
  (read? 0 at'.rest.length at' gap).getD (gap, at')

end Gap

def hexValue? (c : Char) : Option Nat :=
  if c.isDigit then some (c.toNat - 48)
  else if 'a' ≤ c ∧ c ≤ 'f' then some (c.toNat - 87)
  else if 'A' ≤ c ∧ c ≤ 'F' then some (c.toNat - 55)
  else none

def codePoint? (digits : List Char) : Option Char := do
  let values ← digits.mapM hexValue?
  let n := values.foldl (fun n v => 16 * n + v) 0
  if n.isValidChar then some (Char.ofNat n) else none

def letterEscape? : Char → Option Char
  | '0' => some '\x00'
  | 'a' => some '\x07'
  | 'b' => some '\x08'
  | 't' | '\t' => some '\t'
  | 'n' => some '\n'
  | 'v' => some '\x0b'
  | 'f' => some '\x0c'
  | 'r' => some '\r'
  | 'e' => some '\x1b'
  | ' ' => some ' '
  | '"' => some '"'
  | '/' => some '/'
  | '\\' => some '\\'
  | 'N' => some '\u0085'
  | '_' => some '\u00a0'
  | 'L' => some '\u2028'
  | 'P' => some '\u2029'
  | _ => none

def codeLength? : Char → Option Nat
  | 'x' => some 2
  | 'u' => some 4
  | 'U' => some 8
  | _ => none

def escape? : List Char → Option (Char × Nat)
  | [] => none
  | c :: rest =>
    match codeLength? c with
    | some n =>
      let digits := rest.take n
      if digits.length = n then (codePoint? digits).map (·, n + 1) else none
    | none => (letterEscape? c).map (·, 1)

-- Reads up to the closing quote; `text` was read before. In single quotes a quote is written twice, in
-- double quotes a backslash escapes.
def quotedText? (quote : Char) : Nat → Cursor → List Char → Option (List Char × Cursor)
  | 0, _, _ => none
  | fuel + 1, at', text =>
    match at'.rest with
    | [] => none
    | c :: rest =>
      if at'.atDocumentMark then none
      else if isBlank c || isBreak c then
        let (gap, next) := Gap.readQuoted at' {}
        quotedText? quote fuel next (text ++ gap.text)
      else if c = quote then
        if quote = '\'' ∧ rest.head? = some '\'' then quotedText? quote fuel (at'.skip 2) (text ++ ['\''])
        else some (text, at'.skip 1)
      else if c = '\\' ∧ quote = '"' then
        if rest.head?.any isBreak then
          let (gap, next) := Gap.readQuoted (at'.skip 1).skipBreak { leading := some [] }
          quotedText? quote fuel next (text ++ gap.text)
        else
          match escape? rest with
          | some (c, width) => quotedText? quote fuel (at'.skip (width + 1)) (text ++ [c])
          | none => none
      else quotedText? quote fuel (at'.skip 1) (text ++ [c])

def isFlowIndicator (c : Char) : Bool :=
  c == ',' || c == '[' || c == ']' || c == '\x7b' || c == '\x7d'

structure PlainText where
  text : List Char
  gap : Gap
  stop : Cursor
deriving Repr

-- A colon ends a plain text if a gap follows it; inside flow collections indicators end it, and a colon
-- may not stand in front of one.
def plainEnds? (inFlow : Bool) (c : Char) (rest : List Char) : Option Bool :=
  if inFlow && c == ':' && rest.head?.any (fun next => isFlowIndicator next || next == '?') then none
  else some ((c == ':' && gapFollows rest) || (inFlow && isFlowIndicator c))

def plainText? (inFlow : Bool) (least : Nat) : Nat → Cursor → List Char → Gap → Option PlainText
  | 0, _, _, _ => none
  | fuel + 1, at', text, gap =>
    match at'.rest with
    | [] => some ⟨text, gap, at'⟩
    | c :: rest =>
      if isBlank c || isBreak c then
        match Gap.read? least at'.rest.length at' {} with
        | none => none
        | some (gap, next) =>
          if (!inFlow && next.column < least) || next.atDocumentMark || next.rest.head? == some '#' then
            some ⟨text, gap, next⟩
          else plainText? inFlow least fuel next text gap
      else
        match plainEnds? inFlow c rest with
        | none => none
        | some true => some ⟨text, gap, at'⟩
        | some false => plainText? inFlow least fuel (at'.skip 1) (text ++ gap.text ++ [c]) {}

inductive Chomping where
  | strip
  | clip
  | keep
deriving DecidableEq, Repr

def chomping? : Char → Option Chomping
  | '-' => some .strip
  | '+' => some .keep
  | _ => none

def increment? (c : Char) : Option Nat := if c.isDigit && c != '0' then some (c.toNat - 48) else none

def blockHeader? (at' : Cursor) : Option (Chomping × Option Nat × Cursor) :=
  match at'.rest with
  | [] => some (.clip, none, at')
  | c :: rest =>
    match chomping? c with
    | some chomping =>
      match rest with
      | d :: _ =>
        if d.isDigit then (increment? d).map fun n => (chomping, some n, at'.skip 2)
        else some (chomping, none, at'.skip 1)
      | [] => some (chomping, none, at'.skip 1)
    | none =>
      if c.isDigit then
        (increment? c).map fun n =>
          match rest.head? >>= chomping? with
          | some chomping => (chomping, some n, at'.skip 2)
          | none => (.clip, some n, at'.skip 1)
      else some (.clip, none, at')

-- Reads empty lines. `indent` is zero as long as it is not known; the result tells the widest indentation
-- that was met. A tab in the indentation is a fault.
def emptyLines? (indent : Nat) : Nat → Cursor → Nat → List Char → Option (Nat × List Char × Cursor)
  | 0, at', widest, breaks => some (widest, breaks, at')
  | fuel + 1, at', widest, breaks =>
    let spaces := (at'.rest.takeWhile (· == ' ')).length
    let at' := at'.skip (if indent = 0 then spaces else min spaces (indent - at'.column))
    let widest := max widest at'.column
    if (indent = 0 ∨ at'.column < indent) ∧ at'.rest.head? = some '\t' then none
    else if at'.rest.head?.any isBreak then
      let (cs, next) := at'.readBreak
      emptyLines? indent fuel next widest (breaks ++ cs)
    else some (widest, breaks, at')

-- The text of a block scalar as far as it was read: `leading` is the break after its last line, and
-- `trailing` are the breaks of the empty lines after that.
structure BlockText where
  text : List Char := []
  leading : List Char := []
  trailing : List Char := []
  afterBlank : Bool := false
deriving Repr

-- Adds a line to the text. In folded style a single line feed between two lines that start with a word
-- becomes a blank.
def BlockText.addLine (block : BlockText) (style : Style) (line : List Char) : BlockText :=
  let startsBlank := line.head?.any isBlank
  let joint :=
    if style == .folded && block.leading == ['\n'] && !block.afterBlank && !startsBlank then
      if block.trailing.isEmpty then [' '] else []
    else block.leading
  { text := block.text ++ joint ++ block.trailing ++ line, afterBlank := startsBlank }

def blockLines? (style : Style) (indent : Nat) : Nat → Cursor → BlockText → Option (BlockText × Cursor)
  | 0, _, _ => none
  | fuel + 1, at', block =>
    if at'.column == indent && !at'.rest.isEmpty then
      let (line, stop) := at'.span (!isBreak ·)
      let (leading, next) := stop.readBreak
      match emptyLines? indent next.rest.length next 0 [] with
      | none => none
      | some (_, trailing, next) =>
        blockLines? style indent fuel next { block.addLine style line with leading, trailing }
    else some (block, at')

def BlockText.chomp (block : BlockText) : Chomping → List Char
  | .strip => block.text
  | .clip => block.text ++ block.leading
  | .keep => block.text ++ block.leading ++ block.trailing

def blockText? (style : Style) (outer : Option Nat) (at' : Cursor) : Option (List Char × Cursor) := do
  let (chomping, increment, at') ← blockHeader? at'
  let at' ← at'.skipLineEnd?
  let indent := (increment.map (outer.getD 0 + ·)).getD 0
  let (widest, trailing, at') ← emptyLines? indent at'.rest.length at' 0 []
  let indent := if indent = 0 then max widest (max ((outer.map (· + 1)).getD 0) 1) else indent
  let (block, at') ← blockLines? style indent (at'.rest.length + 1) at' { trailing }
  return (block.chomp chomping, at')

end ResourceRoutes.Yaml
