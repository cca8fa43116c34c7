set_option autoImplicit false

namespace ResourceRoutes.Yaml

def isStreamChar (c : Char) : Bool :=
  let n := c.toNat
  n == 0x09 || n == 0x0A || n == 0x0D || (0x20 ≤ n && n ≤ 0x7E) || n == 0x85 || (0xA0 ≤ n && n ≤ 0xD7FF)
    || (0xE000 ≤ n && n ≤ 0xFFFD) || 0x10000 ≤ n

def isBreak (c : Char) : Bool :=
  c == '\n' || c == '\r' || c == '\u0085' || c == '\u2028' || c == '\u2029'

def isBlank (c : Char) : Bool := c == ' ' || c == '\t'

def isNameChar (c : Char) : Bool := c.isAlphanum || c == '_' || c == '-'

def gapFollows : List Char → Bool
  | [] => true
  | c :: _ => isBlank c || isBreak c

def lineEnds : List Char → Bool
  | [] => true
  | c :: _ => isBreak c

structure Cursor where
  rest : List Char
  index : Nat := 0
  line : Nat := 0
  column : Nat := 0
deriving DecidableEq, Repr

namespace Cursor

def skip (at' : Cursor) (n : Nat) : Cursor :=
  { at' with rest := at'.rest.drop n, index := at'.index + n, column := at'.column + n }

def span (at' : Cursor) (p : Char → Bool) : List Char × Cursor :=
  let taken := at'.rest.takeWhile p
  (taken, at'.skip taken.length)

def skipWhile (at' : Cursor) (p : Char → Bool) : Cursor := (at'.span p).2

def skipLine (at' : Cursor) : Cursor := at'.skipWhile (!isBreak ·)

def nextLine (at' : Cursor) (rest : List Char) (width : Nat) : Cursor :=
  ⟨rest, at'.index + width, at'.line + 1, 0⟩

-- Passes a line break, if there is one, and gives what it stands for: line and paragraph separators stand
-- for themselves, all others for a line feed.
def readBreak (at' : Cursor) : List Char × Cursor :=
  match at'.rest with
  | '\r' :: '\n' :: rest => (['\n'], at'.nextLine rest 2)
  | c :: rest =>
    if c == '\u2028' || c == '\u2029' then ([c], at'.nextLine rest 1)
    else if isBreak c then (['\n'], at'.nextLine rest 1)
    else ([], at')
  | [] => ([], at')

def skipBreak (at' : Cursor) : Cursor := at'.readBreak.2

def marksDocument (at' : Cursor) (c : Char) : Bool :=
  at'.column == 0 && at'.rest.take 3 == [c, c, c] && gapFollows (at'.rest.drop 3)

def atDocumentMark (at' : Cursor) : Bool := at'.marksDocument '-' || at'.marksDocument '.'

def skipLineEnd? (at' : Cursor) : Option Cursor :=
  let at' := at'.skipWhile isBlank
  let at' := if at'.rest.head? == some '#' then at'.skipLine else at'
  if lineEnds at'.rest then some at'.skipBreak else none

end Cursor

end ResourceRoutes.Yaml
