import ResourceRoutes.Signature
import ResourceRoutes.Source.Display
import ResourceRoutes.Source.Naming
import ResourceRoutes.Source.TypeNames
set_option autoImplicit false

/- What the types of a function are to a handler. Types are told by the last segment of their paths. -/
namespace ResourceRoutes.Source

def TypeExpr.stripParens : TypeExpr → TypeExpr
  | .paren inner => inner.stripParens
  | t => t

def endsIn (segments : List Segment) (name : List Char) : Bool :=
  segments.getLast?.any (·.name == name)

def onlyArgument? (segments : List Segment) : Option TypeExpr :=
  match segments.getLast? with
  | some (.mk _ (.angled _ [.type t] _)) => some t
  | _ => none

def bindsTo (bounds : List Bound) (name : List Char) : Bool :=
  bounds.any fun bound => match bound with
    | .trait _ _ _ segments => endsIn segments name
    | _ => false

namespace TypeExpr

def isNamed (t : TypeExpr) (name : List Char) : Bool :=
  match t.stripParens with
  | .path _ segments => endsIn segments name
  | _ => false

def namesTypeOrTrait (t : TypeExpr) (name : List Char) : Bool :=
  match t with
  | .path _ segments => endsIn segments name
  | .traitObject _ bounds _ => bindsTo bounds name
  | .implTrait bounds _ => bindsTo bounds name
  | _ => false

end TypeExpr

namespace TypeNames

def contextName (names : TypeNames) : List Char := lastSegment names.context.toList

def writerName (names : TypeNames) : List Char := lastSegment names.responseWriter.toList

def requestName (names : TypeNames) : List Char := lastSegment names.request.toList

def isBoxedRequest (names : TypeNames) (segments : List Segment) : Bool :=
  endsIn segments "Box".toList && (onlyArgument? segments).any (·.isNamed names.requestName)

def role? (names : TypeNames) (t : TypeExpr) : Option ParamKind :=
  match t.stripParens with
  | .path _ segments =>
    if endsIn segments names.contextName then some .context
    else if names.isBoxedRequest segments then some .requestPointer
    else none
  | .qualified _ _ _ segments => if names.isBoxedRequest segments then some .requestPointer else none
  | .reference _ mutable referent =>
    if mutable && referent.stripParens.namesTypeOrTrait names.writerName then some .responseWriter
    else if referent.isNamed names.requestName then some .requestPointer
    else none
  | _ => none

def classifyParam (names : TypeNames) (t : TypeExpr) : ParamKind :=
  (names.role? t).getD (.other t.display)

end TypeNames

-- The plain type of truth values; a path to a type of that name is another type.
def TypeExpr.isBool (t : TypeExpr) : Bool :=
  match t.stripParens with
  | .path false [.mk name .none] => name == "bool".toList
  | _ => false

def classifyReturn (t : TypeExpr) : ReturnKind := if t.isBool then .bool else .other t.display

def classifyOutput : Option TypeExpr → List ReturnKind
  | none => []
  | some t =>
    match t.stripParens with
    | .tuple elements _ => elements.map classifyReturn
    | _ => [classifyReturn t]

def FunctionHeader.describe (names : TypeNames) (header : FunctionHeader) : Signature where
  params := header.params.map fun p => match p with
    | .receiver trees => .other (shown trees)
    | .typed t => names.classifyParam t
  returns := classifyOutput header.output

end ResourceRoutes.Source
