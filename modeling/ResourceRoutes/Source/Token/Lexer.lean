import ResourceRoutes.Source.Token
import ResourceRoutes.Source.Token.Literal
import ResourceRoutes.Text.Blank
import ResourceRoutes.Text.Escaped
set_option autoImplicit false

/- From source text to token trees. Comments are passed; those that document an item become attributes. -/
namespace ResourceRoutes.Source

def isSpace (c : Char) : Bool := Text.isBlank c || c == '\u200e' || c == '\u200f'

def blockComment? : Nat → List Char → Option Nat
  | depth, '/' :: '*' :: rest => (blockComment? (depth + 1) rest).map (· + 2)
  | depth, '*' :: '/' :: rest =>
    if depth ≤ 1 then some 2 else (blockComment? (depth - 1) rest).map (· + 2)
  | depth, _ :: rest => (blockComment? depth rest).map (· + 1)
  | _, [] => none

def lineLength : List Char → Nat
  | [] => 0
  | '\n' :: _ => 0
  | '\r' :: '\n' :: _ => 0
  | _ :: rest => lineLength rest + 1

def startsLineComment (cs : List Char) : Bool :=
  "//".toList.isPrefixOf cs
    && (!"///".toList.isPrefixOf cs || "////".toList.isPrefixOf cs) && !"//!".toList.isPrefixOf cs

def startsBlockComment (cs : List Char) : Bool :=
  "/**/".toList.isPrefixOf cs
    || ("/*".toList.isPrefixOf cs
      && (!"/**".toList.isPrefixOf cs || "/***".toList.isPrefixOf cs) && !"/*!".toList.isPrefixOf cs)

def skipSpace : Nat → List Char → List Char
  | 0, cs => cs
  | fuel + 1, cs =>
    if startsLineComment cs then skipSpace fuel (cs.drop (lineLength cs))
    else if startsBlockComment cs then
      match blockComment? 0 cs with
      | some n => skipSpace fuel (cs.drop n)
      | none => cs
    else
      match cs with
      | c :: rest => if isSpace c then skipSpace fuel rest else cs
      | [] => []

structure DocComment where
  text : List Char
  inner : Bool
  length : Nat
deriving Repr

def returnsPaired : List Char → Bool
  | '\r' :: '\n' :: rest => returnsPaired rest
  | '\r' :: _ => false
  | _ :: rest => returnsPaired rest
  | [] => true

def docComment? (cs : List Char) : Option DocComment :=
  let line (inner : Bool) : DocComment :=
    let text := cs.drop 3
    ⟨text.take (lineLength text), inner, 3 + lineLength text⟩
  let block (inner : Bool) : Option DocComment :=
    (blockComment? 0 cs).map fun n => ⟨(cs.take (n - 2)).drop 3, inner, n⟩
  let comment? :=
    if "//!".toList.isPrefixOf cs then some (line true)
    else if "/*!".toList.isPrefixOf cs then block true
    else if "///".toList.isPrefixOf cs then if cs[3]? = some '/' then none else some (line false)
    else if "/**".toList.isPrefixOf cs ∧ cs[3]? ≠ some '*' then block false
    else none
  comment?.filter fun comment => returnsPaired comment.text

def DocComment.trees (comment : DocComment) : List Tree :=
  .punct '#' false :: (if comment.inner then [.punct '!' false] else [])
    ++ [.group .brackets [.word "doc", .punct '=' false, .literal (Text.quoted comment.text)]]

def isPunctuation (c : Char) : Bool := "~!@#$%^&*-=+|;:,<.>/?'".toList.contains c

def startsComment (cs : List Char) : Bool := "//".toList.isPrefixOf cs || "/*".toList.isPrefixOf cs

def startsPunctuation (cs : List Char) : Bool := !startsComment cs && cs.head?.any isPunctuation

-- A lifetime is a tick and a name, with no tick after it and no mark that would make it a raw string.
def lifetime? (cs : List Char) : Option Nat :=
  match cs with
  | '\'' :: rest =>
    match Lexeme.anyIdent? rest with
    | some n =>
      let next := (rest.drop n).head?
      if next = some '\'' ∨ (next = some '#' ∧ !"r#".toList.isPrefixOf rest) then none else some (n + 1)
    | none => none
  | _ => none

def literalStarts : List (List Char) :=
  ["r\"", "r#\"", "r##", "b\"", "b'", "br\"", "br#", "c\"", "cr\"", "cr#"].map String.toList

def token? (cs : List Char) : Option (Tree × Nat) :=
  match Lexeme.literal? cs with
  | some n => some (.literal (cs.take n), n)
  | none =>
    if startsPunctuation cs then
      match cs with
      | '\'' :: _ => (lifetime? cs).map fun n => (.lifetime (cs.take n), n)
      | c :: rest => some (.punct c (startsPunctuation rest), 1)
      | [] => none
    else if literalStarts.any (·.isPrefixOf cs) then none
    else (Lexeme.anyIdent? cs).map fun n => (.ident (cs.take n), n)

def opening? : Char → Option Delimiter
  | '(' => some .parens
  | '[' => some .brackets
  | '\x7b' => some .braces
  | _ => none

def closing? : Char → Option Delimiter
  | ')' => some .parens
  | ']' => some .brackets
  | '\x7d' => some .braces
  | _ => none

abbrev OpenGroup := Delimiter × List Tree

def readTrees? : Nat → List Char → List OpenGroup → List Tree → Option (List Tree)
  | 0, _, _, _ => none
  | fuel + 1, cs, groups, read =>
    let cs := skipSpace (cs.length + 1) cs
    match docComment? cs with
    | some comment =>
      readTrees? fuel (cs.drop comment.length) groups (comment.trees.reverse ++ read)
    | none =>
      match cs with
      | [] => if groups.isEmpty then some read.reverse else none
      | c :: rest =>
        match opening? c with
        | some delimiter => readTrees? fuel rest ((delimiter, read) :: groups) []
        | none =>
          match closing? c with
          | some delimiter =>
            match groups with
            | (opened, before) :: outer =>
              if opened = delimiter then
                readTrees? fuel rest outer (.group delimiter read.reverse :: before)
              else none
            | [] => none
          | none =>
            match token? cs with
            | some (tree, n) => readTrees? fuel (cs.drop n) groups (tree :: read)
            | none => none

def byteOrderMark : Char := '\ufeff'

def dropByteOrderMark (cs : List Char) : List Char :=
  match cs with
  | c :: rest => if c = byteOrderMark then rest else cs
  | [] => []

def trees? (cs : List Char) : Option (List Tree) :=
  let cs := dropByteOrderMark cs
  readTrees? (cs.length + 1) cs [] []

-- A first line that tells which program runs the file is no source text; an inner attribute looks alike.
def dropInterpreterLine (cs : List Char) : List Char :=
  match cs with
  | '#' :: '!' :: rest =>
    if (skipSpace (rest.length + 1) rest).head? = some '[' then cs else cs.dropWhile (· != '\n')
  | _ => cs

def fileTrees? (cs : List Char) : Option (List Tree) := trees? (dropInterpreterLine (dropByteOrderMark cs))

end ResourceRoutes.Source
