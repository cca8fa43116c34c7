import ResourceRoutes.Source.Type.Parser
set_option autoImplicit false

/- Extent of patterns and expressions. What delimiters enclose is taken unread: blocks and the bodies of functions,
arguments of calls, lengths of arrays, values of attributes. Statements need no grammar then, and a text
whose only faults are in such places is accepted. -/
namespace ResourceRoutes.Source.Parser

def unaddedType : Parser Unit := do
  let _ ← typeExpr (← depthFuel) false

def startsPath (trees : List Tree) : Bool :=
  atIdent trees || startsPathWord trees || atOp "::" trees || atOp "<" trees

def valuePath : Parser Unit := do
  let fuel ← depthFuel
  if ← sees (atOp "<") then
    let _ ← qualifiedPath fuel true
  else
    let _ ← path fuel true

def anyGroupOf (delimiters : List Delimiter) : Parser Unit := do
  match ← anyTree with
  | .group delimiter _ => if delimiters.contains delimiter then pure () else fail
  | _ => fail

def block : Parser Unit := anyGroupOf [.braces]

def atBang (trees : List Tree) : Bool := atOp "!" trees && !atOp "!=" trees

def atBar (trees : List Tree) : Bool := atOp "|" trees && !atOp "||" trees && !atOp "|=" trees

def endsRange (trees : List Tree) : Bool :=
  trees.isEmpty || atOp "|" trees || atOp "=" trees || atColon trees || atOp "," trees || atOp ";" trees
    || atWord "if" trees

def rangeEnd : Parser Bool := do
  if ← sees endsRange then return false
  else if ← sees atLiteral then
    let _ ← literal
    return true
  else if ← wordIf "const" then
    block
    return true
  else
    valuePath
    return true

-- Three dots are the old form of a range with its end.
def rangeIf : Parser Unit := do
  if ← sees (fun trees => atOp "..=" trees || atOp "..." trees) then
    skip 3
    if ← rangeEnd then pure () else fail
  else if ← opIf ".." then
    let _ ← rangeEnd

def startsPathPattern (trees : List Tree) : Bool :=
  (atIdent trees
    && (let next := trees.drop 1
        atOp "::" next || atOp "!" next || atGroup .braces next || atGroup .parens next || atOp ".." next))
    || (atWord "self" trees && atOp "::" (trees.drop 1))
    || atOp "::" trees || atOp "<" trees || atAnyWord ["Self", "super", "crate"] trees

mutual
def pattern : Nat → Parser Unit
  | 0 => fail
  | fuel + 1 => do
    let trees ← get
    if startsPathPattern trees then
      valuePath
      if ← sees atBang then
        op "!"
        let _ ← anyGroup
      else if ← sees (atGroup .braces) then inGroup .braces (fieldPatterns fuel)
      else if ← sees (atGroup .parens) then
        let _ ← inGroup .parens (commaList (alternatives fuel))
      else rangeIf
    else if atWord "_" trees then word "_"
    else if atWord "box" trees then
      word "box"
      pattern fuel
    else if atLiteral trees then
      let _ ← literal
      rangeIf
    else if atWord "const" trees then
      word "const"
      block
      rangeIf
    else if atAnyWord ["ref", "mut", "self"] trees || atIdent trees then
      let _ ← wordIf "ref"
      let _ ← wordIf "mut"
      expect fun trees => atIdent trees || atWord "self" trees
      skip 1
      if ← opIf "@" then pattern fuel
    else if atOp "&" trees then
      op "&"
      let _ ← wordIf "mut"
      pattern fuel
    else if atGroup .parens trees then
      let _ ← inGroup .parens (commaList (alternatives fuel))
    else if atGroup .brackets trees then
      let _ ← inGroup .brackets (commaList (alternatives fuel))
    else if atOp ".." trees && !atOp "..." trees then rangeIf
    else fail

def alternatives : Nat → Parser Unit
  | 0 => fail
  | fuel + 1 => do
    let _ ← opIf "|"
    moreAlternatives fuel

def moreAlternatives : Nat → Parser Unit
  | 0 => fail
  | fuel + 1 => do
    pattern fuel
    if ← sees atBar then
      op "|"
      moreAlternatives fuel

def fieldPatterns : Nat → Parser Unit
  | 0 => fail
  | fuel + 1 => do
    if ← atEnd then return
    let _ ← outerAttributes
    if ← opIf ".." then return
    let boxed ← wordIf "box"
    let byRef ← wordIf "ref"
    let mutable ← wordIf "mut"
    let bare := !(boxed || byRef || mutable)
    let numbered ← sees fun trees => match trees with
      | .literal text :: _ => bare && text.head?.any Char.isDigit
      | _ => false
    if numbered then skip 1
    else
      let _ ← ident
    if numbered || (bare && (← sees (atOp ":"))) then
      op ":"
      alternatives fuel
    if ← atEnd then return
    op ","
    fieldPatterns fuel
end

def binaryOperators : List (List Char) :=
  ["+", "-", "*", "/", "%", "^", "&", "|", "&&", "||", "<<", ">>", "==", "!=", "<", ">", "<=", ">=", "=", "+=", "-=",
    "*=", "/=", "%=", "^=", "&=", "|=", "<<=", ">>="].map String.toList

-- Signs that an expression can begin with, each with the longer ones that are something else.
def leadingSigns : List (String × List String) :=
  [("!", ["!="]), ("-", ["-=", "->"]), ("*", ["*="]), ("|", ["|="]), ("&", ["&="]), ("..", []), ("<", ["<=", "<<="]),
    ("::", []), ("#", [])]

def startsExpression (trees : List Tree) : Bool :=
  (atAnyIdent trees && !atWord "as" trees) || atLifetime trees || atLiteral trees
    || atGroup .parens trees || atGroup .brackets trees || atGroup .braces trees
    || leadingSigns.any fun (sign, longer) => atOp sign trees && !longer.any (atOp · trees)

-- Most words in front of a closure can also stand in front of a block, or begin a loop.
def startsClosure (trees : List Tree) : Bool :=
  let second := trees.drop 1
  let third := trees.drop 2
  atOp "|" trees || atAnyWord ["move", "static"] trees
    || (atWord "const" trees && !atGroup .braces second)
    || (atWord "for" trees && atOp "<" second && (atLifetime third || atOp ">" third))
    || (atWord "async" trees && (atOp "|" second || (atWord "move" second && !atGroup .braces third)))

def startsValuePath (trees : List Tree) : Bool :=
  startsPath trees
    || (atWord "try" trees && (atOp "!" (trees.drop 1) || atOp "::" (trees.drop 1)))

def borrow : Parser Unit := do
  op "&"
  if ← sees fun trees => atWord "raw" trees && atAnyWord ["const", "mut"] (trees.drop 1) then skip 2
  else
    let _ ← wordIf "mut"

def pathValue (structures : Bool) : Parser Unit := do
  valuePath
  if ← sees atBang then
    op "!"
    let _ ← anyGroup
  else if ← sees (fun trees => structures && atGroup .braces trees) then block

def wordedBlock : Parser Unit := do
  if ← wordIf "async" then
    let _ ← wordIf "move"
  else
    expect (atAnyWord ["const", "loop", "try", "unsafe"])
    skip 1
  block

def builtin : Parser Unit := do
  word "builtin"
  op "#"
  let _ ← ident
  anyGroupOf [.parens]

def endsInDot : List Tree → Bool
  | .literal text :: _ => text.getLast? == some '.'
  | _ => false

-- A field or a method. A number that ends in a dot is a field and the dot in front of the next one.
def selection : Parser Unit := do
  op "."
  if ← sees endsInDot then skip 1
  let _ ← anyTree
  if ← sees (fun trees => atOp "::" trees && thirdIsAngle trees) then
    let _ ← angled (← depthFuel)

def closureWords : Parser Unit := do
  let _ ← binderIf (← depthFuel)
  let _ ← wordIf "const"
  let _ ← wordIf "static"
  let _ ← wordIf "async"
  let _ ← wordIf "move"

mutual
-- An expression. Where a block follows, a path with braces after it is no structure.
def expression : Nat → Bool → Parser Unit
  | 0, _ => fail
  | fuel + 1, structures => do
    let _ ← outerAttributes
    let trees ← get
    if atOp "&" trees then
      borrow
      expression fuel structures
    else if atOp "!" trees || atOp "*" trees || (atOp "-" trees && !atLiteral trees) then
      skip 1
      expression fuel structures
    else
      operand fuel structures
      afterOperand fuel structures

def expressionIf : Nat → Bool → Bool → Parser Unit
  | 0, _, _ => fail
  | fuel + 1, braces, structures => do
    if ← sees fun trees => startsExpression trees && (braces || !atGroup .braces trees) then
      expression fuel structures

def operand : Nat → Bool → Parser Unit
  | 0, _ => fail
  | fuel + 1, structures => do
    let trees ← get
    if atLiteral trees then
      let _ ← literal
    else if startsClosure trees then closure fuel structures
    else if atWord "builtin" trees && atOp "#" (trees.drop 1) then builtin
    else if startsValuePath trees then pathValue structures
    else if atAnyWord ["async", "const", "loop", "try", "unsafe"] trees then wordedBlock
    else if atAnyWord ["if", "while", "match", "for"] trees then control fuel
    else if atAnyWord ["return", "yield", "become", "break", "continue"] trees then jump fuel structures
    else if atWord "let" trees then binding fuel structures
    else if atOp ".." trees then range fuel structures
    else if atWord "_" trees then word "_"
    else if atLifetime trees then labelled fuel
    else anyGroupOf [.parens, .brackets, .braces]

-- The sign of a range and its end. Only an end that is included may begin with braces where a block follows.
def range : Nat → Bool → Parser Unit
  | 0, _ => fail
  | fuel + 1, structures => do
    if ← opIf "..=" then expressionIf fuel true structures
    else
      op ".."
      expressionIf fuel structures structures

def closure : Nat → Bool → Parser Unit
  | 0, _ => fail
  | fuel + 1, structures => do
    closureWords
    op "|"
    closureInputs fuel
    op "|"
    if ← opIf "->" then
      let _ ← typeExpr (← depthFuel) true
      block
    else expression fuel structures

def closureInputs : Nat → Parser Unit
  | 0 => fail
  | fuel + 1 => do
    if ← sees (atOp "|") then return
    let _ ← outerAttributes
    pattern fuel
    if ← opIf ":" then
      let _ ← typeExpr (← depthFuel) true
    if ← opIf "," then closureInputs fuel

def control : Nat → Parser Unit
  | 0 => fail
  | fuel + 1 => do
    if ← sees (atWord "if") then condition fuel
    else if ← wordIf "for" then
      alternatives fuel
      word "in"
      expression fuel false
      block
    else
      expect (atAnyWord ["while", "match"])
      skip 1
      expression fuel false
      block

def condition : Nat → Parser Unit
  | 0 => fail
  | fuel + 1 => do
    word "if"
    expression fuel false
    block
    if ← wordIf "else" then
      if ← sees (atWord "if") then condition fuel else block

def labelled : Nat → Parser Unit
  | 0 => fail
  | fuel + 1 => do
    let _ ← lifetime
    op ":"
    if ← sees (atAnyWord ["while", "for"]) then control fuel
    else
      let _ ← wordIf "loop"
      block

-- A jump takes all that can be read as its value. Only after `break` braces may be those of what is around it.
def jump : Nat → Bool → Parser Unit
  | 0, _ => fail
  | fuel + 1, structures => do
    if ← wordIf "become" then expression fuel true
    else if ← wordIf "continue" then
      let _ ← lifetimeIf
    else if ← wordIf "break" then
      let _ ← lifetimeIf
      expressionIf fuel structures true
    else
      expect (atAnyWord ["return", "yield"])
      skip 1
      expressionIf fuel true true

def binding : Nat → Bool → Parser Unit
  | 0, _ => fail
  | fuel + 1, structures => do
    word "let"
    alternatives fuel
    op "="
    expression fuel structures

def afterOperand : Nat → Bool → Parser Unit
  | 0, _ => fail
  | fuel + 1, structures => do
    let trees ← get
    if atOp "?" trees || atGroup .parens trees || atGroup .brackets trees then
      skip 1
      afterOperand fuel structures
    else if atOp ".." trees then range fuel structures
    else if atOp "." trees then
      selection
      afterOperand fuel structures
    else if atWord "as" trees then
      word "as"
      unaddedType
      afterOperand fuel structures
    else
      let operator := operatorAt trees
      if binaryOperators.contains operator then
        skip operator.length
        expression fuel structures
end

def value : Parser Unit := do expression (← depthFuel) true

end ResourceRoutes.Source.Parser
