import ResourceRoutes.Report
import ResourceRoutes.Text.Casing
import ResourceRoutes.Text.Replacement
set_option autoImplicit false

namespace ResourceRoutes

def dropEnding (ending cs : List Char) : List Char :=
  if ending.isSuffixOf cs then cs.take (cs.length - ending.length) else cs

def basePath (structName : String) : String :=
  Text.lowercase (String.ofList (dropEnding "Resource".toList structName.toList))

def isMethodChar (c : Char) : Bool := c.isAlphanum || "!#$%&'*+-.^_`|~".toList.contains c

def isMethodToken (token : String) : Bool := !token.toList.isEmpty && token.toList.all isMethodChar

structure Method where
  token : String
  valid : isMethodToken token = true
deriving DecidableEq

namespace Method

def ofString? (token : String) : Option Method :=
  if h : isMethodToken token = true then some ⟨token, h⟩ else none

def delete : Method := ⟨"DELETE", by decide⟩
def get : Method := ⟨"GET", by decide⟩
def patch : Method := ⟨"PATCH", by decide⟩
def post : Method := ⟨"POST", by decide⟩
def put : Method := ⟨"PUT", by decide⟩

end Method

namespace HandlerKind

def method : HandlerKind → Method
  | .deleteOne | .deleteMany => .delete
  | .getMany | .getOne => .get
  | .patch => .patch
  | .post => .post
  | .put => .put

def registerName : HandlerKind → String
  | .deleteOne | .deleteMany => "Delete"
  | .getMany | .getOne => "Get"
  | .patch => "Patch"
  | .post => "Post"
  | .put => "Put"

def specificHook : HandlerKind → HookKind
  | .deleteOne | .getOne | .patch | .put => .beforeOne
  | .deleteMany | .getMany | .post => .beforeMany

def isSingle (kind : HandlerKind) : Bool := kind.specificHook == .beforeOne

def pathEnding (kind : HandlerKind) : String := if kind.isSingle then "/:id" else ""

def placeHolder : String := "\x7bbase\x7d"

def urlTemplate (kind : HandlerKind) : String := placeHolder ++ kind.pathEnding

def url (kind : HandlerKind) (structName : String) : String :=
  String.ofList
    (Text.replace placeHolder.toList (basePath structName).toList kind.urlTemplate.toList)

def applies (kind : HandlerKind) (hook : HookKind) : Bool := hook == .beforeAll || kind.specificHook == hook

def hookChain (kind : HandlerKind) (report : Report) : List HookKind :=
  [HookKind.beforeAll, kind.specificHook].filter report.hasHook

end HandlerKind

def registerNameFor (handler : String) : Except RouteError String :=
  (HandlerKind.ofName handler).map (·.registerName)

def urlFor (structName handler : String) : Except RouteError String :=
  (HandlerKind.ofName handler).map (·.url structName)

def hasBefore (handler hook : String) : Except RouteError Bool :=
  (HandlerKind.ofName handler).map fun kind =>
    match HookKind.ofName hook with
    | .ok hook => kind.applies hook
    | .error _ => false

end ResourceRoutes
