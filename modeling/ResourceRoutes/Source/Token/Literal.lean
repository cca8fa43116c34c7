import ResourceRoutes.Text.Identifier
set_option autoImplicit false

/- Extent of identifiers and literals: how many characters the lexeme takes that a text begins with. -/
namespace ResourceRoutes.Source.Lexeme

def ident? : List Char → Option Nat
  | [] => none
  | c :: rest =>
    if Text.isIdentStart c then some (1 + (rest.takeWhile Text.isIdentContinue).length) else none

def unrawable : List (List Char) := ["_", "super", "self", "Self", "crate"].map String.toList

def anyIdent? (cs : List Char) : Option Nat :=
  match cs with
  | 'r' :: '#' :: rest =>
    match ident? rest with
    | some n => if unrawable.contains (rest.take n) then none else some (n + 2)
    | none => none
  | _ => ident? cs

def withSuffix (cs : List Char) (n : Nat) : Nat := n + (ident? (cs.drop n)).getD 0

inductive Content where
  | text
  | bytes
  | nulFree
deriving DecidableEq, Repr

def isHex (c : Char) : Bool := c.isDigit || ('a' ≤ c && c ≤ 'f') || ('A' ≤ c && c ≤ 'F')

def hexValue (c : Char) : Nat :=
  if c.isDigit then c.toNat - 48 else if 'a' ≤ c then c.toNat - 87 else c.toNat - 55

def codePoint? (nulAllowed : Bool) : Nat → Nat → List Char → Option Nat
  | _, _, [] => none
  | digits, value, c :: rest =>
    if isHex c then
      if digits < 6 then (codePoint? nulAllowed (digits + 1) (16 * value + hexValue c) rest).map (· + 1)
      else none
    else if digits = 0 then none
    else if c = '_' then (codePoint? nulAllowed digits value rest).map (· + 1)
    else if c = '\x7d' ∧ value.isValidChar ∧ (nulAllowed ∨ value ≠ 0) then some 1
    else none

def escape? (content : Content) : List Char → Option Nat
  | 'x' :: a :: b :: _ =>
    let fits := match content with
      | .text => a.isDigit && a ≤ '7' && isHex b
      | .bytes => isHex a && isHex b
      | .nulFree => isHex a && isHex b && !(a == '0' && b == '0')
    if fits then some 3 else none
  | 'u' :: '\x7b' :: rest =>
    if content = .bytes then none else (codePoint? (content == .text) 0 0 rest).map (· + 2)
  | '0' :: _ => if content = .nulFree then none else some 1
  | c :: _ => if "nrt\\'\"".toList.contains c then some 1 else none
  | [] => none

-- After a backslash at the end of a line: the blanks up to the next character. A carriage return is
-- followed by a line feed.
def continuation? : Bool → List Char → Option Nat
  | _, [] => none
  | true, c :: rest => if c = '\n' then (continuation? false rest).map (· + 1) else none
  | false, c :: rest =>
    if c = ' ' ∨ c = '\t' ∨ c = '\n' then (continuation? false rest).map (· + 1)
    else if c = '\r' then (continuation? true rest).map (· + 1)
    else some 0

def allowed (content : Content) (c : Char) : Bool :=
  match content with
  | .text => true
  | .bytes => c.toNat < 0x80
  | .nulFree => c != '\x00'

def quotedRest? (content : Content) : Nat → List Char → Option Nat
  | 0, _ => none
  | fuel + 1, cs =>
    match cs with
    | [] => none
    | '"' :: _ => some 1
    | '\r' :: rest =>
      if rest.head? = some '\n' then (quotedRest? content fuel rest.tail).map (· + 2) else none
    | '\\' :: rest =>
      match rest with
      | '\n' :: rest => do
        let n ← continuation? false rest
        let m ← quotedRest? content fuel (rest.drop n)
        return n + m + 2
      | '\r' :: rest => do
        let n ← continuation? true rest
        let m ← quotedRest? content fuel (rest.drop n)
        return n + m + 2
      | _ => do
        let n ← escape? content rest
        let m ← quotedRest? content fuel (rest.drop n)
        return n + m + 1
    | c :: rest => if allowed content c then (quotedRest? content fuel rest).map (· + 1) else none

def rawRest? (content : Content) (marks : List Char) : List Char → Option Nat
  | [] => none
  | '\r' :: '\n' :: rest => (rawRest? content marks rest).map (· + 2)
  | '\r' :: _ => none
  | c :: rest =>
    if c = '"' ∧ marks.isPrefixOf rest then some (1 + marks.length)
    else if allowed content c then (rawRest? content marks rest).map (· + 1)
    else none

def raw? (content : Content) (cs : List Char) : Option Nat :=
  let marks := cs.takeWhile (· == '#')
  match cs.drop marks.length with
  | '"' :: rest =>
    if marks.length ≤ 255 then (rawRest? content marks rest).map (· + marks.length + 1) else none
  | _ => none

def quoted? (content : Content) (cs : List Char) : Option Nat :=
  match cs with
  | '"' :: rest => (quotedRest? content (rest.length + 1) rest).map (· + 1)
  | _ => none

def ticked? (content : Content) (cs : List Char) : Option Nat :=
  let inner? := match cs with
    | '\'' :: '\\' :: rest => (escape? content rest).map (· + 1)
    | '\'' :: c :: _ => if allowed content c then some 1 else none
    | _ => none
  match inner? with
  | some n => if cs[n + 1]? = some '\'' then some (n + 2) else none
  | none => none

def string? (cs : List Char) : Option Nat :=
  match cs with
  | 'b' :: 'r' :: rest => (raw? .bytes rest).map (· + 2)
  | 'c' :: 'r' :: rest => (raw? .nulFree rest).map (· + 2)
  | 'b' :: '"' :: rest => (quoted? .bytes ('"' :: rest)).map (· + 1)
  | 'c' :: '"' :: rest => (quoted? .nulFree ('"' :: rest)).map (· + 1)
  | 'r' :: rest => (raw? .text rest).map (· + 1)
  | _ => quoted? .text cs

def character? (cs : List Char) : Option Nat :=
  match cs with
  | 'b' :: rest => (ticked? .bytes rest).map (· + 1)
  | _ => ticked? .text cs

def exponent? (cs : List Char) : Option Nat :=
  let part (cs : List Char) := cs.takeWhile fun c => c.isDigit || c == '_'
  let before := cs.takeWhile (· == '_')
  let (sign, rest) := match cs.drop before.length with
    | '+' :: rest | '-' :: rest => (1, rest)
    | rest => (0, rest)
  let digits := part rest
  if digits.any Char.isDigit then some (before.length + sign + digits.length) else none

-- Digits with a point or an exponent. A point is no part of the number if a second point or a name follows.
def floatDigits? (cs : List Char) : Option Nat :=
  if !cs.head?.any Char.isDigit then none
  else
    let part (cs : List Char) := (cs.takeWhile fun c => c.isDigit || c == '_').length
    let whole := part cs
    let exponentAt (n : Nat) : Option (Option Nat) :=
      match cs.drop n with
      | 'e' :: rest | 'E' :: rest => some ((exponent? rest).map (n + 1 + ·))
      | _ => none
    match cs.drop whole with
    | '.' :: rest =>
      if rest.head?.any fun c => c == '.' || Text.isIdentStart c then none
      else
        let n := whole + 1 + part rest
        match exponentAt n with
        | some (some end') => some end'
        | _ => some n
    | _ => (exponentAt whole).join

def endNumber? (cs : List Char) (n : Nat) : Option Nat :=
  let stop := withSuffix cs n
  if (cs.drop stop).head?.any Text.isIdentContinue then none else some stop

def float? (cs : List Char) : Option Nat := floatDigits? cs >>= endNumber? cs

def digitsOf? (base : Nat) : Bool → List Char → Option Nat
  | seen, c :: rest =>
    if c.isDigit then
      if hexValue c < base then (digitsOf? base true rest).map (· + 1) else none
    else if isHex c ∧ hexValue c < base then (digitsOf? base true rest).map (· + 1)
    else if c = '_' ∧ (seen ∨ base ≠ 10) then (digitsOf? base seen rest).map (· + 1)
    else if c = '_' ∨ !seen then none
    else some 0
  | seen, [] => if seen then some 0 else none

def int? (cs : List Char) : Option Nat :=
  let digits? := match cs with
    | '0' :: 'x' :: rest => (digitsOf? 16 false rest).map (· + 2)
    | '0' :: 'o' :: rest => (digitsOf? 8 false rest).map (· + 2)
    | '0' :: 'b' :: rest => (digitsOf? 2 false rest).map (· + 2)
    | _ => digitsOf? 10 false cs
  digits? >>= endNumber? cs

def literal? (cs : List Char) : Option Nat :=
  match string? cs with
  | some n => some (withSuffix cs n)
  | none =>
    match character? cs with
    | some n => some (withSuffix cs n)
    | none =>
      match float? cs with
      | some n => some n
      | none => int? cs

end ResourceRoutes.Source.Lexeme
