import ResourceRoutes.Source.Token
set_option autoImplicit false

/- Tokens of an expression as they are shown: characters are joint only within an operator. -/
namespace ResourceRoutes.Source

def longOperators : List (List Char) :=
  ["<<=", ">>=", "...", "..=", "::", "->", "=>", "==", "!=", "<=", ">=", "&&", "||", "+=", "-=", "*=", "/=", "%=",
    "^=", "&=", "|=", "<<", ">>", ".."].map String.toList

def punctRun : Nat → List Tree → List Char
  | 0, _ => []
  | n + 1, .punct c joint :: rest => c :: (if joint then punctRun n rest else [])
  | _, _ => []

def operatorAt (trees : List Tree) : List Char :=
  let run := punctRun 3 trees
  match longOperators.find? (·.isPrefixOf run) with
  | some operator => operator
  | none => run.take 1

-- What was passed last: the name of a macro if an exclamation mark follows, or both.
inductive Passed where
  | name
  | macroName
  | other
deriving DecidableEq, Repr

def Passed.next (passed : Passed) : Tree → Passed
  | .ident _ => .name
  | .punct '!' _ => if passed = .name then .macroName else .other
  | _ => .other

mutual
def respaceTree (passed : Passed) : Tree → Tree
  | .group delimiter content =>
    if passed = .macroName then .group delimiter content else .group delimiter (respaceFrom 0 .other content)
  | tree => tree

-- Spaces trees anew. The first `left` punctuation characters belong to an operator that began before.
def respaceFrom (left : Nat) (passed : Passed) : List Tree → List Tree
  | [] => []
  | .punct c joint :: rest =>
    let left := (if left = 0 then (operatorAt (.punct c joint :: rest)).length else left) - 1
    .punct c (left != 0) :: respaceFrom left (passed.next (.punct c joint)) rest
  | tree :: rest => respaceTree passed tree :: respaceFrom 0 (passed.next tree) rest
end

def respace (trees : List Tree) : List Tree := respaceFrom 0 .other trees

end ResourceRoutes.Source
