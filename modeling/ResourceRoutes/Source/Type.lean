import ResourceRoutes.Source.Token
set_option autoImplicit false

/- Types as they are written in source text. Forms that never take part in a signature keep their tokens. -/
namespace ResourceRoutes.Source

mutual
inductive TypeExpr where
  | path (global : Bool) (segments : List Segment)
  | qualified (self : TypeExpr) (global : Bool) (traitPath : List Segment) (rest : List Segment)
  | reference (lifetime : Option (List Char)) (mutable : Bool) (referent : TypeExpr)
  | paren (inner : TypeExpr)
  | tuple (elements : List TypeExpr) (trailing : Bool)
  | traitObject (isDyn : Bool) (bounds : List Bound) (trailing : Bool)
  | implTrait (bounds : List Bound) (trailing : Bool)
  | pointer (mutable : Bool) (target : TypeExpr)
  | slice (element : TypeExpr)
  | array (element : TypeExpr) (length : List Tree)
  | other (trees : List Tree)

inductive Segment where
  | mk (name : List Char) (arguments : Arguments)

inductive Arguments where
  | none
  | angled (separated : Bool) (arguments : List Argument) (trailing : Bool)
  | called (inputs : List TypeExpr) (trailing : Bool)
  | returning (inputs : List TypeExpr) (trailing : Bool) (output : TypeExpr)

inductive Argument where
  | lifetime (name : List Char)
  | type (t : TypeExpr)
  | other (trees : List Tree)

inductive Bound where
  | trait (inParens : Bool) (leading : List Tree) (global : Bool) (segments : List Segment)
  | lifetime (name : List Char)
  | other (trees : List Tree)
end

namespace Segment

def name : Segment → List Char
  | .mk name _ => name

def arguments : Segment → Arguments
  | .mk _ arguments => arguments

end Segment

namespace TypeExpr

def separator (present : Bool) : List Tree := if present then Tree.op "::" else []

def comma (present : Bool) : List Tree := if present then Tree.op "," else []

def isLifetime : Argument → Bool
  | .lifetime _ => true
  | _ => false

def endsInLifetime (arguments : List Argument) : Bool := arguments.getLast?.any isLifetime

mutual
def trees : TypeExpr → List Tree
  | .path isGlobal segments => separator isGlobal ++ treesOfPath segments
  | .qualified self isGlobal traitPath rest =>
    Tree.op "<" ++ self.trees
      ++ (if traitPath.isEmpty then [] else .word "as" :: separator isGlobal ++ treesOfPath traitPath)
      ++ Tree.op ">" ++ Tree.op "::" ++ treesOfPath rest
  | .reference lifetime mutable referent =>
    Tree.op "&" ++ lifetime.toList.map Tree.lifetime ++ (if mutable then [.word "mut"] else [])
      ++ referent.trees
  | .paren inner => [.group .parens inner.trees]
  | .tuple elements trailing => [.group .parens (treesOfTypes elements ++ comma (trailing && !elements.isEmpty))]
  | .traitObject isDyn bounds trailing =>
    (if isDyn then [.word "dyn"] else []) ++ treesOfBounds bounds ++ (if trailing then Tree.op "+" else [])
  | .implTrait bounds trailing =>
    .word "impl" :: treesOfBounds bounds ++ (if trailing then Tree.op "+" else [])
  | .pointer mutable target =>
    Tree.op "*" ++ [.word (if mutable then "mut" else "const")] ++ target.trees
  | .slice element => [.group .brackets element.trees]
  | .array element length => [.group .brackets (element.trees ++ Tree.op ";" ++ length)]
  | .other trees => trees

def treesOfTypes : List TypeExpr → List Tree
  | [] => []
  | [t] => t.trees
  | t :: rest => t.trees ++ Tree.op "," ++ treesOfTypes rest

def treesOfPath : List Segment → List Tree
  | [] => []
  | [segment] => treesOfSegment segment
  | segment :: rest => treesOfSegment segment ++ Tree.op "::" ++ treesOfPath rest

def treesOfSegment : Segment → List Tree
  | .mk name arguments => .ident name :: treesOfArguments arguments

-- Lifetimes come before all other arguments.
def treesOfArguments : Arguments → List Tree
  | .none => []
  | .angled separated arguments trailing =>
    separator separated ++ Tree.op "<" ++ treesOfLifetimes arguments trailing
      ++ treesOfOthers (endsInLifetime arguments && !trailing) arguments trailing
      ++ Tree.op ">"
  | .called inputs trailing => [.group .parens (treesOfTypes inputs ++ comma (trailing && !inputs.isEmpty))]
  | .returning inputs trailing output =>
    .group .parens (treesOfTypes inputs ++ comma (trailing && !inputs.isEmpty)) :: Tree.op "->" ++ output.trees

def treesOfLifetimes : List Argument → Bool → List Tree
  | [], _ => []
  | .lifetime name :: rest, trailing =>
    .lifetime name :: comma (!rest.isEmpty || trailing) ++ treesOfLifetimes rest trailing
  | _ :: rest, trailing => treesOfLifetimes rest trailing

-- The other arguments, each with the comma that follows it; `due` asks for a comma in front of the first.
def treesOfOthers : Bool → List Argument → Bool → List Tree
  | _, [], _ => []
  | due, .lifetime _ :: rest, trailing => treesOfOthers due rest trailing
  | due, argument :: rest, trailing =>
    comma due ++ treesOfArgument argument ++ comma (!rest.isEmpty || trailing)
      ++ treesOfOthers false rest trailing

def treesOfArgument : Argument → List Tree
  | .lifetime name => [.lifetime name]
  | .type t => t.trees
  | .other trees => trees

def treesOfBounds : List Bound → List Tree
  | [] => []
  | [bound] => treesOfBound bound
  | bound :: rest => treesOfBound bound ++ Tree.op "+" ++ treesOfBounds rest

def treesOfBound : Bound → List Tree
  | .trait inParens leading isGlobal segments =>
    let inner := leading ++ separator isGlobal ++ treesOfPath segments
    if inParens then [.group .parens inner] else inner
  | .lifetime name => [.lifetime name]
  | .other trees => trees
end

end TypeExpr

end ResourceRoutes.Source
