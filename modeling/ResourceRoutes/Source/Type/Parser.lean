import ResourceRoutes.Source.Parser
import ResourceRoutes.Source.Token.Spacing
import ResourceRoutes.Source.Type
set_option autoImplicit false

namespace ResourceRoutes.Source.Parser

def startsPathWord (trees : List Tree) : Bool := atAnyWord ["super", "self", "Self", "crate"] trees

def plainPathRest : Nat → Parser (List Tree)
  | 0 => fail
  | fuel + 1 => do
    expect fun trees => atIdent trees || startsPathWord trees
    let name ← anyIdent
    if ← opIf "::" then return .ident name :: Tree.op "::" ++ (← plainPathRest fuel)
    else return [.ident name]

def plainPath : Parser (List Tree) := do
  let isGlobal ← opIf "::"
  return TypeExpr.separator isGlobal ++ (← plainPathRest (← fuel))

def anyGroup : Parser Tree := do
  match ← anyTree with
  | .group delimiter content => return .group delimiter content
  | _ => fail

def someRest : Parser (List Tree) := do
  let trees ← get
  set ([] : List Tree)
  if trees.isEmpty then fail else return respace trees

def isSign (sign : Char) : Tree → Bool
  | .punct c _ => c == sign
  | _ => false

def arrayLength : Parser (List Tree) := do
  let length ← someRest
  if length.any (isSign ';') || length.getLast?.any (isSign ',') then fail else return length

def attributeBody : Parser (List Tree) := do
  let path ← if ← wordIf "unsafe" then pure [.word "unsafe"] else plainPath
  if ← atEnd then return path
  if ← opIf "=" then return path ++ Tree.op "=" ++ (← someRest)
  return path ++ [← anyGroup]

def attributes (look : List Tree → Bool) (sign : Parser (List Tree)) : Nat → Parser (List Tree)
  | 0 => fail
  | fuel + 1 => do
    if ← sees look then
      let lead ← sign
      let body ← inGroup .brackets attributeBody
      return lead ++ .group .brackets body :: (← attributes look sign fuel)
    else return []

def outerAttributes : Parser (List Tree) := do
  attributes (atOp "#") (do op "#"; return Tree.op "#") (← fuel)

def atInnerAttribute : List Tree → Bool
  | .punct '#' _ :: .punct '!' _ :: _ => true
  | _ => false

def innerAttributes : Parser (List Tree) := do
  attributes atInnerAttribute (do skip 2; return Tree.op "#" ++ Tree.op "!") (← fuel)

def literal : Parser (List Tree) := do
  expect atLiteral
  if ← opIf "-" then return Tree.op "-" ++ [← anyTree] else return [← anyTree]

def constant (namesAllowed : Bool) : Parser (List Tree) := do
  if ← sees atLiteral then literal
  else if ← sees (fun trees => namesAllowed && atIdent trees) then return [.ident (← ident)]
  else return [.group .braces (respace (← group .braces))]

def convention : Parser (List Tree) := do
  if ← wordIf "extern" then
    if ← sees atStringLiteral then return [.word "extern", ← anyTree] else return [.word "extern"]
  else return []

def wordTrees (s : String) : Parser (List Tree) := do if ← wordIf s then return [.word s] else return []

def thirdIsParens : List Tree → Bool
  | _ :: _ :: .group .parens _ :: _ => true
  | _ => false

def thirdIsAngle : List Tree → Bool
  | _ :: _ :: .punct '<' _ :: _ => true
  | _ => false

def startsBound (trees : List Tree) : Bool :=
  atAnyIdent trees || atOp "::" trees || atOp "?" trees || atLifetime trees || atGroup .parens trees
    || atGroup .brackets trees

def isPlain (segments : List Segment) : Bool :=
  segments.all fun segment => match segment.arguments with
    | .none => true
    | _ => false

def isCapture : List Tree → Bool
  | .ident name :: _ => name == "use".toList
  | _ => false

def namesTrait (bounds : List Bound) : Bool :=
  bounds.any fun bound => match bound with
    | .trait _ _ _ _ => true
    | .lifetime _ => false
    | .other trees => !isCapture trees

def callable? (segments : List Segment) : Bool :=
  match segments.getLast? with
  | some (.mk _ .none) => true
  | _ => false

def withArguments (segments : List Segment) (arguments : Arguments) : List Segment :=
  match segments.getLast? with
  | some (.mk name _) => segments.dropLast ++ [.mk name arguments]
  | none => []

def signed {α : Type} (sign : String) (enough : List Tree → Bool) (item : Parser α) :
    Nat → Parser (List α × Bool)
  | 0 => fail
  | fuel + 1 => do
    if ← sees enough then return ([], true)
    let a ← item
    if ← opIf sign then
      let (rest, trailing) ← signed sign enough item fuel
      return (a :: rest, trailing)
    else return ([a], false)

def joinTrees (sign : String) : List (List Tree) → List Tree
  | [] => []
  | [trees] => trees
  | trees :: rest => trees ++ Tree.op sign ++ joinTrees sign rest

def trailingTrees {α : Type} (sign : String) (items : List α) (trailing : Bool) : List Tree :=
  if trailing && !items.isEmpty then Tree.op sign else []

def lifetimeBounds (enough : List Tree → Bool) : Parser (List Tree) := do
  let (names, trailing) ← signed "+" enough lifetime (← fuel)
  return joinTrees "+" (names.map fun name => [.lifetime name]) ++ trailingTrees "+" names trailing

def endsParameter (trees : List Tree) : Bool := atOp "," trees || atOp ">" trees

def capturedName : Parser (List Tree) := do
  if ← sees atLifetime then return [.lifetime (← lifetime)]
  expect fun trees => atIdent trees || atWord "Self" trees
  return [.ident (← anyIdent)]

def capture : Parser (List Tree) := do
  word "use"
  op "<"
  let (names, trailing) ← signed "," (atOp ">") capturedName (← fuel)
  op ">"
  return .word "use" :: Tree.op "<" ++ joinTrees "," names ++ trailingTrees "," names trailing ++ Tree.op ">"

mutual
-- A type. With `plus`, bounds may be added to it.
def typeExpr : Nat → Bool → Parser TypeExpr
  | 0, _ => fail
  | fuel + 1, plus => do
    let binder ← binderIf fuel
    if !binder.isEmpty then
      expect fun trees => atIdent trees || startsPathWord trees || atAnyWord ["fn", "unsafe", "extern"] trees
    let trees ← get
    if atGroup .parens trees then parenthesized fuel plus
    else if atAnyWord ["fn", "unsafe", "extern"] trees then return .other (binder ++ (← functionType fuel))
    else if atOp "<" trees then qualifiedPath fuel false
    else if atIdent trees || startsPathWord trees || atOp "::" trees then pathType fuel plus binder
    else if atWord "dyn" trees then
      word "dyn"
      if ← opIf "*" then
        let (bounds, trailing) ← bounds fuel plus false
        if namesTrait bounds then
          return .other (.word "dyn" :: Tree.op "*" ++ TypeExpr.treesOfBounds bounds
            ++ if trailing then Tree.op "+" else [])
        else fail
      else traitObject fuel plus true
    else if atGroup .brackets trees then inGroup .brackets (arrayOrSlice fuel)
    else if atOp "*" trees then
      op "*"
      let mutable ← if ← wordIf "mut" then pure true else do word "const"; pure false
      return .pointer mutable (← typeExpr fuel false)
    else if atOp "&" trees then
      op "&"
      let lifetime ← lifetimeIf
      let mutable ← wordIf "mut"
      return .reference lifetime mutable (← typeExpr fuel false)
    else if atOp "!" trees then
      op "!"
      return .other (Tree.op "!")
    else if atWord "impl" trees then
      word "impl"
      let (bounds, trailing) ← bounds fuel plus true
      if namesTrait bounds then return .implTrait bounds trailing else fail
    else if atWord "_" trees then
      word "_"
      return .other [.word "_"]
    else if atLifetime trees then traitObject fuel true false
    else fail

def parenthesized : Nat → Bool → Parser TypeExpr
  | 0, _ => fail
  | fuel + 1, plus => do
    let content ← group .parens
    if content.isEmpty then return .tuple [] false
    else if atLifetime content then
      return .paren (← liftM (m := Option) ((traitObject fuel true false).all content))
    else if atOp "?" content then
      let first ← liftM (m := Option) ((traitBound fuel true).all content)
      return .traitObject false (first :: (← moreBounds fuel)) false
    else
      let (first, others) ← liftM (m := Option) ((firstElement fuel).all content)
      match others with
      | some (rest, trailing) => return .tuple (first :: rest) trailing
      | none =>
        if plus && (← sees (atOp "+")) then
          match first with
          | .path isGlobal segments =>
            return .traitObject false (.trait true [] isGlobal segments :: (← moreBounds fuel)) false
          | .traitObject false [.trait _ leading isGlobal segments] false =>
            return .traitObject false (.trait true leading isGlobal segments :: (← moreBounds fuel)) false
          | .traitObject false [bound] false => return .traitObject false (bound :: (← moreBounds fuel)) false
          | _ => return .paren first
        else return .paren first

def firstElement : Nat → Parser (TypeExpr × Option (List TypeExpr × Bool))
  | 0 => fail
  | fuel + 1 => do
    let first ← typeExpr fuel true
    if ← opIf "," then return (first, some (← commaList (typeExpr fuel true)))
    else return (first, none)

def moreBounds : Nat → Parser (List Bound)
  | 0 => fail
  | fuel + 1 => do
    if ← opIf "+" then
      let bound ← bound fuel true
      return bound :: (← moreBounds fuel)
    else return []

def arrayOrSlice : Nat → Parser TypeExpr
  | 0 => fail
  | fuel + 1 => do
    let element ← typeExpr fuel true
    if ← opIf ";" then return .array element (← arrayLength) else return .slice element

def pathType : Nat → Bool → List Tree → Parser TypeExpr
  | 0, _, _ => fail
  | fuel + 1, plus, binder => do
    let (isGlobal, segments) ← path fuel false
    if (← sees fun trees => atOp "!" trees && !atOp "!=" trees) && isPlain segments then
      op "!"
      let arguments ← anyGroup
      return .other (TypeExpr.separator isGlobal ++ TypeExpr.treesOfPath segments ++ Tree.op "!" ++ [arguments])
    else if !binder.isEmpty || (plus && (← sees (atOp "+"))) then
      let first := Bound.trait false binder isGlobal segments
      if plus && (← sees (atOp "+")) then
        op "+"
        if ← sees startsBound then
          let (rest, trailing) ← bounds fuel true false
          return .traitObject false (first :: rest) trailing
        else return .traitObject false [first] true
      else return .traitObject false [first] false
    else return .path isGlobal segments

def qualifiedPath : Nat → Bool → Parser TypeExpr
  | 0, _ => fail
  | fuel + 1, inExpr => do
    op "<"
    let self ← typeExpr fuel true
    let (isGlobal, traitPath) ← if ← wordIf "as" then path fuel false else pure (false, [])
    op ">"
    op "::"
    let first ← segment fuel inExpr
    return .qualified self isGlobal traitPath (first :: (← pathRest fuel inExpr false))

-- A path, and whether it starts from the root. In expressions arguments need a separator.
def path : Nat → Bool → Parser (Bool × List Segment)
  | 0, _ => fail
  | fuel + 1, inExpr => do
    let isGlobal ← opIf "::"
    let first ← segment fuel inExpr
    return (isGlobal, first :: (← pathRest fuel inExpr true))

-- Further segments of a path. A separator in front of parentheses may be left for them.
def pathRest : Nat → Bool → Bool → Parser (List Segment)
  | 0, _, _ => fail
  | fuel + 1, inExpr, leaveCalls => do
    if ← sees fun trees => atOp "::" trees && !(leaveCalls && thirdIsParens trees) then
      op "::"
      let next ← segment fuel inExpr
      return next :: (← pathRest fuel inExpr leaveCalls)
    else return []

def segment : Nat → Bool → Parser Segment
  | 0, _ => fail
  | fuel + 1, inExpr => do
    if ← sees (atAnyWord ["super", "self", "crate", "try"]) then return .mk (← anyIdent) .none
    let name ← if ← sees (atWord "Self") then anyIdent else ident
    let trees ← get
    if (!inExpr && atOp "<" trees && !atOp "<=" trees) || (atOp "::" trees && thirdIsAngle trees) then
      return .mk name (← angled fuel)
    else return .mk name .none

def angled : Nat → Parser Arguments
  | 0 => fail
  | fuel + 1 => do
    let separated ← opIf "::"
    op "<"
    let (arguments, trailing) ← signed "," (atOp ">") (argument fuel) (← Parser.fuel)
    op ">"
    return .angled separated arguments trailing

def argument : Nat → Parser Argument
  | 0 => fail
  | fuel + 1 => do
    let trees ← get
    if atLifetime trees && !atOp "+" (trees.drop 1) then return .lifetime (← lifetime)
    else if atLiteral trees || atGroup .braces trees then return .other (← constant false)
    else
      let t ← typeExpr fuel true
      match t with
      | .path false [.mk name arguments] =>
        if ← opIf "=" then
          let value ←
            if ← sees (fun trees => atLiteral trees || atGroup .braces trees) then constant false
            else do pure (← typeExpr fuel true).trees
          return .other (TypeExpr.treesOfSegment (.mk name arguments) ++ Tree.op "=" ++ value)
        else if ← opIf ":" then
          let (bounds, trailing) ← signed "+" endsParameter (bound fuel false) (← Parser.fuel)
          return .other (TypeExpr.treesOfSegment (.mk name arguments) ++ Tree.op ":"
            ++ TypeExpr.treesOfBounds bounds ++ trailingTrees "+" bounds trailing)
        else return .type t
      | _ => return .type t

def traitObject : Nat → Bool → Bool → Parser TypeExpr
  | 0, _, _ => fail
  | fuel + 1, plus, isDyn => do
    let (bounds, trailing) ← bounds fuel plus false
    if namesTrait bounds then return .traitObject isDyn bounds trailing else fail

def bounds : Nat → Bool → Bool → Parser (List Bound × Bool)
  | 0, _, _ => fail
  | fuel + 1, plus, captures => do
    let first ← bound fuel captures
    if plus && (← sees (atOp "+")) then
      op "+"
      if ← sees startsBound then
        let (rest, trailing) ← bounds fuel plus captures
        return (first :: rest, trailing)
      else return ([first], true)
    else return ([first], false)

def bound : Nat → Bool → Parser Bound
  | 0, _ => fail
  | fuel + 1, captures => do
    if ← sees atLifetime then return .lifetime (← lifetime)
    else if ← sees (atWord "use") then if captures then return .other (← capture) else fail
    else if ← sees (atGroup .parens) then inGroup .parens (traitBound fuel true)
    else traitBound fuel false

-- A trait with what modifies it. One that is to be constant keeps only its tokens.
def traitBound : Nat → Bool → Parser Bound
  | 0, _ => fail
  | fuel + 1, inParens => do
    let binder ← binderIf fuel
    let marker ← constMarker
    let relaxed ← opIf "?"
    let inner ← if relaxed && binder.isEmpty then binderIf fuel else pure []
    let (isGlobal, segments) ← path fuel false
    let segments ←
      if callable? segments
          && (← sees fun trees => atGroup .parens trees || (atOp "::" trees && thirdIsParens trees)) then do
        let _ ← opIf "::"
        pure (withArguments segments (← calledArguments fuel))
      else pure segments
    if relaxed && !(binder ++ inner).isEmpty then fail
    let leading := (if relaxed then Tree.op "?" else []) ++ binder ++ inner
    if marker.isEmpty then return .trait inParens leading isGlobal segments
    else
      let trees := binder ++ marker ++ (if relaxed then Tree.op "?" else [])
        ++ TypeExpr.separator isGlobal ++ TypeExpr.treesOfPath segments
      return .other (if inParens then [.group .parens trees] else trees)

def constMarker : Parser (List Tree) := do
  if ← wordIf "const" then return [.word "const"]
  else if ← opIf "~" then
    word "const"
    return Tree.op "~" ++ [.word "const"]
  else if ← sees (atGroup .brackets) then
    inGroup .brackets (word "const")
    return [.group .brackets [.word "const"]]
  else return []

def calledArguments : Nat → Parser Arguments
  | 0 => fail
  | fuel + 1 => do
    let (inputs, trailing) ← inGroup .parens (commaList (typeExpr fuel true))
    if ← opIf "->" then return .returning inputs trailing (← typeExpr fuel false)
    else return .called inputs trailing

def binderIf : Nat → Parser (List Tree)
  | 0 => fail
  | fuel + 1 => do
    if ← wordIf "for" then
      op "<"
      let (parameters, trailing) ← signed "," (atOp ">") (parameter fuel) (← Parser.fuel)
      op ">"
      return .word "for" :: Tree.op "<" ++ joinTrees "," parameters ++ trailingTrees "," parameters trailing
        ++ Tree.op ">"
    else return []

def parameter : Nat → Parser (List Tree)
  | 0 => fail
  | fuel + 1 => do
    let attributes ← outerAttributes
    let trees ← get
    if atLifetime trees then
      let name ← lifetime
      if ← opIf ":" then
        return attributes ++ .lifetime name :: Tree.op ":" ++ (← lifetimeBounds endsParameter)
      else return attributes ++ [.lifetime name]
    else if atWord "const" trees then
      word "const"
      let name ← ident
      op ":"
      let t ← typeExpr fuel true
      let default ← if ← opIf "=" then do pure (Tree.op "=" ++ (← constant true)) else pure []
      return attributes ++ .word "const" :: .ident name :: Tree.op ":" ++ t.trees ++ default
    else
      let name ← ident
      let bounds ←
        if ← opIf ":" then do
          let (bounds, trailing) ← signed "+" (fun trees => endsParameter trees || atOp "=" trees)
            (bound fuel false) (← Parser.fuel)
          pure (Tree.op ":" ++ TypeExpr.treesOfBounds bounds ++ trailingTrees "+" bounds trailing)
        else pure []
      let default ← if ← opIf "=" then do pure (Tree.op "=" ++ (← typeExpr fuel true).trees) else pure []
      return attributes ++ .ident name :: bounds ++ default

def functionType : Nat → Parser (List Tree)
  | 0 => fail
  | fuel + 1 => do
    let safety ← wordTrees "unsafe"
    let convention ← convention
    word "fn"
    let inputs ← inGroup .parens (functionInputs fuel true)
    let output ← if ← opIf "->" then do pure (Tree.op "->" ++ (← typeExpr fuel false).trees) else pure []
    return safety ++ convention ++ .word "fn" :: .group .parens inputs :: output

def functionInputs : Nat → Bool → Parser (List Tree)
  | 0, _ => fail
  | fuel + 1, first => do
    if ← atEnd then return []
    let attributes ← outerAttributes
    let named ← sees fun trees =>
      (atIdent trees || atWord "_" trees) && atOp ":" (trees.drop 1) && atOp "..." (trees.drop 2)
    if named || (← sees (atOp "...")) then
      let name ← if named then do
          let name ← anyIdent
          op ":"
          pure (.ident name :: Tree.op ":")
        else pure []
      op "..."
      let comma ← opIf ","
      return attributes ++ name ++ Tree.op "..." ++ TypeExpr.comma comma
    else
      let input ← functionInput fuel first
      if ← atEnd then return attributes ++ input
      op ","
      return attributes ++ input ++ Tree.op "," ++ (← functionInputs fuel false)

def functionInput : Nat → Bool → Parser (List Tree)
  | 0, _ => fail
  | fuel + 1, first => do
    let isReceiver ← sees fun trees => first && atWord "mut" trees && atWord "self" (trees.drop 1)
    if isReceiver then
      skip 2
      if ← sees atColon then
        op ":"
        return .word "mut" :: .word "self" :: Tree.op ":" ++ (← typeExpr fuel true).trees
      else return [.word "mut", .word "self"]
    else
      let named ← sees fun trees =>
        (atIdent trees || atWord "_" trees || (first && atWord "self" trees)) && atColon (trees.drop 1)
      if named then
        let name ← anyIdent
        op ":"
        return .ident name :: Tree.op ":" ++ (← typeExpr fuel true).trees
      else return (← typeExpr fuel true).trees
end

end ResourceRoutes.Source.Parser
