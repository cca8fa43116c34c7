import ResourceRoutes.Source.Function
set_option autoImplicit false

/- Items of a source file. Structures and implementations count; all others are told apart only as far as
it takes to find where they end. -/
namespace ResourceRoutes.Source

inductive Member where
  | function (header : FunctionHeader)
  | other

structure Implementation where
  target : TypeExpr
  ofTrait : Bool
  members : List Member

inductive Item where
  | structure (name : List Char)
  | implementation (impl' : Implementation)
  | module (name : List Char) (items : List Item)
  | other

namespace Parser

def startsScope (trees : List Tree) : Bool := atAnyWord ["crate", "self", "super"] trees

def isScope (content : List Tree) : Bool :=
  atWord "in" content || (startsScope content && content.length == 1)

def scope : Parser Unit := do
  if ← wordIf "in" then
    let _ ← plainPath
  else skip 1

def visibility : Parser Bool := do
  if ← wordIf "pub" then
    match (← get).head? with
    | some (.group .parens content) => if isScope content then inGroup .parens scope
    | _ => pure ()
    return true
  else return false

def body : Parser Unit := inGroup .braces do
  let _ ← innerAttributes
  set ([] : List Tree)

def opensFields (trees : List Tree) : Bool :=
  atWord "struct" trees || (atWord "union" trees && atGroup .braces (trees.drop 1))

def namedField : Nat → Parser Unit
  | 0 => fail
  | fuel + 1 => do
    let _ ← outerAttributes
    let _ ← visibility
    let unnamed ← wordIf "_"
    if unnamed then pure () else
      let _ ← ident
    op ":"
    if ← sees fun trees => unnamed && opensFields trees then
      skip 1
      let _ ← inGroup .braces (commaList (namedField fuel))
    else
      let _ ← anyType

def tupleField : Parser Unit := do
  let _ ← outerAttributes
  let _ ← visibility
  let _ ← anyType

def namedFields : Parser Unit := do
  let _ ← inGroup .braces (commaList (namedField (← depthFuel)))

def tupleFields : Parser Unit := do
  let _ ← inGroup .parens (commaList tupleField)

def structureBody : Parser Unit := do
  if ← sees (atGroup .parens) then
    tupleFields
    whereClause
    op ";"
  else
    whereClause
    if ← sees (atGroup .braces) then namedFields else op ";"

def variant : Parser Unit := do
  let _ ← outerAttributes
  let _ ← visibility
  let _ ← ident
  if ← sees (atGroup .braces) then namedFields
  else if ← sees (atGroup .parens) then tupleFields
  if ← opIf "=" then value

def macroItem (mayName : Bool) : Parser Unit := do
  let _ ← plainPath
  op "!"
  if mayName then
    if ← sees fun trees => atIdent trees || atWord "try" trees then skip 1
  match ← anyGroup with
  | .group .braces _ => pure ()
  | _ => op ";"

def startsMacro (trees : List Tree) : Bool :=
  atIdent trees || atAnyWord ["self", "super", "crate"] trees || atOp "::" trees

def nameOrBlank : Parser Unit := do
  expect fun trees => atIdent trees || atWord "_" trees
  skip 1

def startsFunction (trees : List Tree) : Bool :=
  let signature : Parser Unit := do
    let _ ← wordIf "const"
    let _ ← wordIf "async"
    let _ ← wordIf "unsafe"
    let _ ← convention
    word "fn"
  (signature trees).isSome

def initializer : Parser Unit := do if ← opIf "=" then value

def constantItem : Parser Unit := do
  word "const"
  nameOrBlank
  generics
  op ":"
  let _ ← anyType
  initializer
  whereClause
  op ";"

def boundsBefore (enough : List Tree → Bool) : Parser Unit := do
  let (_, trailing) ← signed "+" enough anyBound (← fuel)
  if trailing then pure () else expect enough

def endsTypeBounds (trees : List Tree) : Bool := atWord "where" trees || atOp "=" trees || atOp ";" trees

def typeItem (before after : Bool) : Parser Unit := do
  word "type"
  let _ ← ident
  generics
  if ← opIf ":" then boundsBefore endsTypeBounds
  let early ← sees (atWord "where")
  if before then whereClause
  if ← opIf "=" then
    let _ ← anyType
  if after && !(before && early) then whereClause
  op ";"

def useTree : Nat → Bool → Parser Unit
  | 0, _ => fail
  | fuel + 1, rootAllowed => do
    if ← sees (atGroup .braces) then
      let _ ← inGroup .braces (commaList do
        let rooted ← if rootAllowed then opIf "::" else pure false
        useTree fuel (rootAllowed && !rooted))
    else if ← opIf "*" then pure ()
    else
      expect fun trees => atIdent trees || atAnyWord ["self", "super", "crate", "try"] trees
      skip 1
      if ← opIf "::" then useTree fuel false
      else if ← wordIf "as" then nameOrBlank

def useItem : Parser Unit := do
  word "use"
  let rooted ← opIf "::"
  useTree (← depthFuel) (!rooted)
  op ";"

def externCrate : Parser Unit := do
  word "extern"
  word "crate"
  if ← wordIf "self" then pure () else
    let _ ← ident
  if ← wordIf "as" then nameOrBlank
  op ";"

def traitMember : Parser Unit := do
  let _ ← outerAttributes
  let shown ← visibility
  let isDefault ← wordIf "default"
  let trees ← get
  if startsFunction trees then
    let _ ← functionHeader
    if ← opIf ";" then pure () else body
  else if atWord "const" trees then constantItem
  else if atWord "type" trees then typeItem false true
  else if !shown && !isDefault && startsMacro trees then macroItem false
  else fail

def endsSupertraits (trees : List Tree) : Bool := atWord "where" trees || atGroup .braces trees

def traitBody : Parser Unit := do
  if ← opIf ":" then boundsBefore endsSupertraits
  whereClause
  inGroup .braces do
    let _ ← innerAttributes
    let _ ← many traitMember

def traitItem : Parser Unit := do
  let isUnsafe ← wordIf "unsafe"
  let isAuto ← wordIf "auto"
  word "trait"
  let _ ← ident
  generics
  if !isUnsafe && !isAuto && (← sees (atOp "=")) then
    op "="
    boundsBefore fun trees => atWord "where" trees || atOp ";" trees
    whereClause
    op ";"
  else traitBody

def foreignStatic : Parser Unit := do
  if ← wordIf "unsafe" then pure () else
    let _ ← wordIf "safe"
  word "static"
  let _ ← wordIf "mut"
  let _ ← ident
  op ":"
  let _ ← anyType
  initializer
  op ";"

def atForeignStatic (trees : List Tree) : Bool :=
  atWord "static" trees || (atAnyWord ["unsafe", "safe"] trees && atWord "static" (trees.drop 1))

def safeWords : Parser Unit := do
  let _ ← wordIf "const"
  let _ ← wordIf "async"
  word "safe"

def startsSafeFunction (trees : List Tree) : Bool :=
  match safeWords trees with
  | some (_, rest) => startsFunction rest
  | none => false

def foreignMember : Parser Unit := do
  let _ ← outerAttributes
  let shown ← visibility
  let trees ← get
  if startsFunction trees || startsSafeFunction trees then
    if startsSafeFunction trees then safeWords
    let _ ← functionHeader
    if ← sees (atGroup .braces) then body else op ";"
  else if atForeignStatic trees then foreignStatic
  else if atWord "type" trees then typeItem true true
  else if !shown && startsMacro trees then macroItem false
  else fail

def foreignItems : Parser Unit := do
  let _ ← wordIf "unsafe"
  word "extern"
  let _ ← if ← sees atStringLiteral then skip 1
  inGroup .braces do
    let _ ← innerAttributes
    let _ ← many foreignMember

def implementedFunction : Parser Member := do
  let _ ← visibility
  let _ ← wordIf "default"
  let header ← functionHeader
  if ← opIf ";" then return .other
  body
  return .function header

def member : Parser Member := do
  let _ ← outerAttributes
  let start ← get
  let shown ← visibility
  let isDefault ← sees fun trees => atWord "default" trees && !atOp "!" (trees.drop 1)
  if isDefault then skip 1
  let trees ← get
  if startsFunction trees then
    set start
    implementedFunction
  else
    if atWord "const" trees then constantItem
    else if atWord "type" trees then typeItem false true
    else if !shown && !isDefault && startsMacro trees then macroItem false
    else fail
    return .other

-- An angle bracket opens generics here, not a qualified path.
def opensGenerics (trees : List Tree) : Bool :=
  let second := trees.drop 1
  let third := trees.drop 2
  atOp "<" trees
    && (atOp ">" second || atOp "#" second || atWord "const" second
      || ((atLifetime second || atIdent second)
        && (atOp ">" third || atOp "," third || atColon third || atOp "=" third)))

-- An implementation; none if it is of a kind whose functions do not count: one that is visible, constant,
-- negative without a trait, or of something that is no path.
def implementation : Parser (Option Implementation) := do
  let shown ← visibility
  let _ ← wordIf "default"
  let _ ← wordIf "unsafe"
  word "impl"
  if ← sees opensGenerics then generics
  let isConst ← sees fun trees => atWord "const" trees || (atOp "?" trees && atWord "const" (trees.drop 1))
  if isConst then
    let _ ← opIf "?"
    word "const"
  let negative ← sees fun trees => atOp "!" trees && !atGroup .braces (trees.drop 1)
  if negative then op "!"
  let first ← anyType
  let ofTrait ← wordIf "for"
  let target ← if ofTrait then anyType else pure first
  whereClause
  let members ← inGroup .braces do
    let _ ← innerAttributes
    many member
  let named := match first with
    | .path _ _ => true
    | _ => false
  if shown || isConst || (ofTrait && !named) || (negative && !ofTrait) then return none
  else return some { target, ofTrait, members }

def staticItem : Parser Unit := do
  word "static"
  let _ ← wordIf "mut"
  let _ ← ident
  if ← opIf "=" then value
  else
    op ":"
    let _ ← anyType
    initializer
  op ";"

def functionItem : Parser Unit := do
  let _ ← functionHeader
  if ← opIf ";" then pure () else body

def macroDeclaration : Parser Unit := do
  word "macro"
  let _ ← ident
  if ← sees (atGroup .parens) then skip 1
  block

def structureItem : Parser Item := do
  word "struct"
  let name ← ident
  generics
  structureBody
  return .structure name

def enumItem : Parser Unit := do
  word "enum"
  let _ ← ident
  generics
  whereClause
  let _ ← inGroup .braces (commaList variant)

def unionItem : Parser Unit := do
  word "union"
  let _ ← ident
  generics
  whereClause
  namedFields

def other (p : Parser Unit) : Parser Item := do
  p
  return .other

def implementationItem (start : List Tree) : Parser Item := do
  set start
  match ← implementation with
  | some found => return .implementation found
  | none => return .other

def atImplementation (trees : List Tree) : Bool :=
  atWord "impl" trees || (atWord "default" trees && !atOp "!" (trees.drop 1))

def atTrait (trees : List Tree) : Bool :=
  atWord "trait" trees || (atWord "auto" trees && atWord "trait" (trees.drop 1))

mutual
def item : Nat → Parser Item
  | 0 => fail
  | fuel + 1 => do
    let _ ← outerAttributes
    let start ← get
    let shown ← visibility
    let trees ← get
    let second := trees.drop 1
    if startsFunction trees then other functionItem
    else if atWord "extern" trees then
      if atWord "crate" second then other externCrate
      else if shown then fail
      else other foreignItems
    else if atWord "use" trees then other useItem
    else if atWord "static" trees then other staticItem
    else if atWord "const" trees then other constantItem
    else if atWord "unsafe" trees then
      if atTrait second then other traitItem
      else if atWord "impl" second then implementationItem start
      else if atWord "extern" second then if shown then fail else other foreignItems
      else if atWord "mod" second then do
        word "unsafe"
        module fuel
      else fail
    else if atWord "mod" trees then module fuel
    else if atWord "type" trees then other (typeItem true false)
    else if atWord "struct" trees then structureItem
    else if atWord "enum" trees then other enumItem
    else if atWord "union" trees && atIdent second then other unionItem
    else if atTrait trees then other traitItem
    else if atImplementation trees then implementationItem start
    else if atWord "macro" trees then other macroDeclaration
    else if !shown && startsMacro trees then other (macroItem true)
    else fail

def module : Nat → Parser Item
  | 0 => fail
  | fuel + 1 => do
    word "mod"
    let name ← if ← sees (atWord "try") then anyIdent else ident
    if ← opIf ";" then return .module name []
    else
      let items ← inGroup .braces do
        let _ ← innerAttributes
        many (item fuel)
      return .module name items
end

def file : Parser (List Item) := do
  let _ ← innerAttributes
  many (item (← depthFuel))

end Parser

def itemsOfText? (text : List Char) : Option (List Item) := fileTrees? text >>= Parser.file.all

end ResourceRoutes.Source
