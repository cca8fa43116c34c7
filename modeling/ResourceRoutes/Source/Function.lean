import ResourceRoutes.Source.Expression
import ResourceRoutes.Source.Token.Lexer
set_option autoImplicit false

namespace ResourceRoutes.Source

inductive Param where
  | receiver (trees : List Tree)
  | typed (type : TypeExpr)

structure FunctionHeader where
  name : List Char
  params : List Param
  variadic : Bool
  output : Option TypeExpr

namespace Param

def isReceiver : Param → Bool
  | .receiver _ => true
  | .typed _ => false

end Param

namespace Parser

def anyType : Parser TypeExpr := do typeExpr (← depthFuel) true

def output : Parser (Option TypeExpr) := do
  if ← opIf "->" then return some (← anyType) else return none

def genericParameter : Parser Unit := do
  let _ ← outerAttributes
  if ← wordIf "_" then return
  let _ ← parameter (← depthFuel)

def generics : Parser Unit := do
  if ← opIf "<" then
    let _ ← signed "," (atOp ">") genericParameter (← fuel)
    op ">"

def anyBound : Parser Unit := do
  let _ ← bound (← depthFuel) true

def endsCondition (trees : List Tree) : Bool :=
  trees.isEmpty || atGroup .braces trees || atOp "," trees || atOp ";" trees || atColon trees || atOp "=" trees

def wherePredicate : Parser Unit := do
  if ← sees fun trees => atLifetime trees && atOp ":" (trees.drop 1) then
    skip 1
    op ":"
    let _ ← lifetimeBounds endsCondition
  else
    let _ ← binderIf (← depthFuel)
    let _ ← anyType
    op ":"
    let _ ← signed "+" endsCondition anyBound (← fuel)

def whereClause : Parser Unit := do
  if ← wordIf "where" then
    let _ ← signed "," endsCondition wherePredicate (← fuel)

def receiver : Parser (List Tree) := do
  let reference ← opIf "&"
  let lifetime ← if reference then lifetimeIf else pure none
  let mutable ← wordTrees "mut"
  word "self"
  let lead := (if reference then Tree.op "&" else []) ++ lifetime.toList.map Tree.lifetime ++ mutable
    ++ [.word "self"]
  if !reference && (← sees (atOp ":")) then
    op ":"
    return lead ++ Tree.op ":" ++ (← anyType).trees
  else return lead

-- A parameter that is no receiver; none for the dots of a variadic function. A type may stand alone if it
-- begins with a name and arguments.
def typedParam : Parser (Option Param) := do
  if ← sees fun trees => atIdent trees && atOp "<" (trees.drop 1) then return some (.typed (← anyType))
  pattern (← depthFuel)
  op ":"
  if ← opIf "..." then return none else return some (.typed (← anyType))

def param : Parser (Option Param) := do
  let attributes ← outerAttributes
  if ← opIf "..." then return none
  match receiver (← get) with
  | some (trees, rest) =>
    set rest
    return some (.receiver (attributes ++ trees))
  | none => typedParam

def params : Bool → Nat → Parser (List Param × Bool)
  | _, 0 => fail
  | first, fuel + 1 => do
    if ← atEnd then return ([], false)
    match ← param with
    | none =>
      let _ ← opIf ","
      return ([], true)
    | some p =>
      if p.isReceiver && !first then fail
      if ← atEnd then return ([p], false)
      op ","
      let (rest, variadic) ← params false fuel
      return (p :: rest, variadic)

def functionHeader : Parser FunctionHeader := do
  let _ ← wordIf "const"
  let _ ← wordIf "async"
  let _ ← wordIf "unsafe"
  let _ ← convention
  word "fn"
  let name ← ident
  generics
  let (params, variadic) ← inGroup .parens do params true (← fuel)
  let output ← output
  whereClause
  return { name, params, variadic, output }

end Parser

def TypeExpr.ofText? (text : List Char) : Option TypeExpr := trees? text >>= Parser.anyType.all

def outputOfText? (text : List Char) : Option (Option TypeExpr) := trees? text >>= Parser.output.all

def FunctionHeader.ofText? (text : List Char) : Option FunctionHeader :=
  trees? text >>= Parser.functionHeader.all

end ResourceRoutes.Source
