set_option autoImplicit false

namespace ResourceRoutes.Source

inductive Delimiter where
  | parens
  | brackets
  | braces
deriving DecidableEq, Repr

-- A token, or a group of them between delimiters. A lifetime keeps its tick. A punctuation character is
-- `joint` if another one follows it directly.
inductive Tree where
  | ident (name : List Char)
  | lifetime (name : List Char)
  | literal (text : List Char)
  | punct (c : Char) (joint : Bool)
  | group (delimiter : Delimiter) (content : List Tree)
deriving Repr

namespace Tree

def word (name : String) : Tree := .ident name.toList

def operatorOf : List Char → List Tree
  | [] => []
  | [c] => [.punct c false]
  | c :: rest => .punct c true :: operatorOf rest

def op (s : String) : List Tree := operatorOf s.toList

def isJoint : Tree → Bool
  | .punct _ joint => joint
  | _ => false

mutual
def text : Tree → List Char
  | .ident name => name
  | .lifetime name => name
  | .literal text => text
  | .punct c _ => [c]
  | .group .parens content => '(' :: textOfAll content ++ [')']
  | .group .brackets content => '[' :: textOfAll content ++ [']']
  | .group .braces [] => ['\x7b', ' ', '\x7d']
  | .group .braces (first :: rest) => '\x7b' :: ' ' :: textOfAll (first :: rest) ++ [' ', '\x7d']

def textOfAll : List Tree → List Char
  | [] => []
  | [tree] => tree.text
  | tree :: rest => tree.text ++ (if tree.isJoint then [] else [' ']) ++ textOfAll rest
end

mutual
def size : Tree → Nat
  | .group _ content => 1 + sizeOfAll content
  | _ => 1

def sizeOfAll : List Tree → Nat
  | [] => 0
  | tree :: rest => tree.size + sizeOfAll rest
end

end Tree

end ResourceRoutes.Source
