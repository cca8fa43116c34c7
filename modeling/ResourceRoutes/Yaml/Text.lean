import ResourceRoutes.Yaml.Cursor
import ResourceRoutes.Yaml.Scalar
import ResourceRoutes.Yaml.Token
set_option autoImplicit false

namespace ResourceRoutes.Yaml.Text

def isPrintable (c : Char) : Bool :=
  let n := c.toNat
  n == 0x0A || (0x20 ≤ n && n ≤ 0x7E) || (0xA0 ≤ n && n ≤ 0xD7FF)
    || (0xE000 ≤ n && n ≤ 0xFFFD && n != 0xFEFF) || 0x10000 ≤ n

def hasPair (p q : Char → Bool) : List Char → Bool
  | a :: b :: rest => (p a && q b) || hasPair p q (b :: rest)
  | _ => false

def isSpace (c : Char) : Bool := c == ' '

def endsLikeGap (c : Char) : Bool := isBlank c || isBreak c

def startsLikeIndicator (cs : List Char) : Bool :=
  match cs with
  | [] => false
  | c :: rest =>
    "#,[]\x7b\x7d&*!|>'\"%@`".toList.contains c || ("?:-".toList.contains c && gapFollows rest)
      || cs.take 3 == "---".toList || cs.take 3 == "...".toList

def holdsIndicator : List Char → Bool
  | a :: b :: rest =>
    (b == ':' && gapFollows rest) || (endsLikeGap a && b == '#') || holdsIndicator (b :: rest)
  | _ => false

def fitsSingle (cs : List Char) : Bool :=
  cs.all isPrintable && !hasPair isBreak isSpace cs && !hasPair isSpace isBreak cs

def fitsPlain (cs : List Char) : Bool :=
  fitsSingle cs && !cs.any isBreak && !cs.head?.any isSpace && !cs.getLast?.any isSpace
    && !startsLikeIndicator cs && !holdsIndicator cs

def fitsLiteral (cs : List Char) : Bool :=
  cs.all isPrintable && !cs.getLast?.any isSpace && !hasPair isSpace isBreak cs

def isAmbiguous (cs : List Char) : Bool := Meaning.ofPlain cs != .text || Meaning.isZeroPadded cs

-- Texts with line feeds are literal blocks, if that keeps them; what would not be read as a text is quoted.
def style (cs : List Char) : Style :=
  if cs.contains '\n' then if fitsLiteral cs then .literal else .doubleQuoted
  else if fitsPlain cs && !isAmbiguous cs then .plain
  else if fitsSingle cs then .singleQuoted
  else .doubleQuoted

def spaces (n : Nat) : List Char := List.replicate n ' '

def hexDigit (n : Nat) : Char := if n < 10 then Char.ofNat (48 + n) else Char.ofNat (55 + n)

def hexDigits : Nat → Nat → List Char
  | 0, _ => []
  | width + 1, n => hexDigits width (n / 16) ++ [hexDigit (n % 16)]

def escapeLetter? (c : Char) : Option Char :=
  match c with
  | '\x00' => some '0'
  | '\x07' => some 'a'
  | '\x08' => some 'b'
  | '\t' => some 't'
  | '\n' => some 'n'
  | '\x0b' => some 'v'
  | '\x0c' => some 'f'
  | '\r' => some 'r'
  | '\x1b' => some 'e'
  | '"' => some '"'
  | '\\' => some '\\'
  | '\u0085' => some 'N'
  | '\u2028' => some 'L'
  | '\u2029' => some 'P'
  | _ => none

def escapeChar (c : Char) : List Char :=
  match escapeLetter? c with
  | some letter => ['\\', letter]
  | none =>
    if isPrintable c then [c]
    else if c.toNat ≤ 0xFF then '\\' :: 'x' :: hexDigits 2 c.toNat
    else if c.toNat ≤ 0xFFFF then '\\' :: 'u' :: hexDigits 4 c.toNat
    else '\\' :: 'U' :: hexDigits 8 c.toNat

def doubleQuoted (cs : List Char) : List Char := '"' :: cs.flatMap escapeChar ++ ['"']

def indentAfterBreaks (indent : Nat) (afterBreak : Bool) : List Char → List Char
  | [] => []
  | c :: rest =>
    if isBreak c then c :: indentAfterBreaks indent true rest
    else (if afterBreak then spaces indent else []) ++ c :: indentAfterBreaks indent false rest

def doubleQuote (c : Char) : List Char := if c = '\'' then ['\'', '\''] else [c]

def singleQuoted (indent : Nat) (cs : List Char) : List Char :=
  '\'' :: indentAfterBreaks indent false (cs.flatMap doubleQuote)
    ++ (if cs.getLast?.any isBreak then spaces indent else []) ++ ['\'']

def chompingMark (cs : List Char) : List Char :=
  match cs.reverse with
  | [] => ['-']
  | last :: before =>
    if !isBreak last then ['-']
    else if before.head?.all isBreak then ['+']
    else []

-- The indentation is given where the text does not show it.
def indentMark (cs : List Char) : List Char :=
  if cs.head?.any (fun c => isSpace c || isBreak c) then ['2'] else []

def literal (indent : Nat) (cs : List Char) : List Char :=
  '|' :: indentMark cs ++ chompingMark cs ++ '\n' :: indentAfterBreaks indent true cs

def write (indent : Nat) (cs : List Char) : List Char :=
  match style cs with
  | .plain => cs ++ ['\n']
  | .singleQuoted => singleQuoted indent cs ++ ['\n']
  | .literal => literal indent cs ++ if cs.getLast?.any isBreak then [] else ['\n']
  | _ => doubleQuoted cs ++ ['\n']

def writeKey (cs : List Char) : List Char :=
  if cs.any isBreak then doubleQuoted cs
  else
    match style cs with
    | .plain => cs
    | .singleQuoted => singleQuoted 0 cs
    | _ => doubleQuoted cs

end ResourceRoutes.Yaml.Text
