import ResourceRoutes.Log.Event
import ResourceRoutes.Resource
import ResourceRoutes.Source.Classification
import ResourceRoutes.Source.Item
set_option autoImplicit false

namespace ResourceRoutes.Source

open Log (Event)

def Implementation.targetName? (impl' : Implementation) : Option (List Char) :=
  match impl'.target with
  | .path _ segments => segments.getLast?.map (·.name)
  | _ => none

def structureNames (items : List Item) : List (List Char) :=
  items.filterMap fun item => match item with
    | .structure name => some name
    | _ => none

def implementations (items : List Item) : List Implementation :=
  items.filterMap fun item => match item with
    | .implementation impl' => some impl'
    | _ => none

def Member.header? : Member → Option FunctionHeader
  | .function header => some header
  | .other => none

def FunctionHeader.methodName (header : FunctionHeader) : String := String.ofList (toCamelCase header.name)

def addFunction (names : TypeNames) (ofTrait : Bool) (d : Descriptor) (header : FunctionHeader) : Descriptor :=
  if ofTrait && (d.get? header.methodName).isSome then d
  else d.insert header.methodName (.function (header.describe names))

def addImplementation (names : TypeNames) (d : Descriptor) (impl' : Implementation) : Descriptor :=
  (impl'.members.filterMap Member.header?).foldl (addFunction names impl'.ofTrait) d

def describeType (names : TypeNames) (items : List Item) (name : List Char) : Descriptor :=
  ((implementations items).filter (·.targetName? == some name)).foldl (addImplementation names) Descriptor.empty

-- One resource for each structure; of several with one name the first has all the functions.
def resourcesOf (names : TypeNames) (items : List Item) : List (List Char) → List (List Char) → List Resource
  | _, [] => []
  | before, name :: rest =>
    let descriptor := if before.contains name then Descriptor.empty else describeType names items name
    ⟨String.ofList name, descriptor⟩ :: resourcesOf names items (name :: before) rest

def resourcesOfItems (names : TypeNames) (items : List Item) : List Resource :=
  resourcesOf names items [] (structureNames items)

def skippedEvent (target : List Char) : Event where
  level := .debug
  target := "restgen::source::discover"
  message := "skipping impl for a type not declared in this file"
  fields := [("target", .bare (String.ofList target))]

def skippedEvents (items : List Item) : List Event :=
  ((implementations items).filterMap Implementation.targetName?).filterMap fun target =>
    if (structureNames items).contains target then none else some (skippedEvent target)

def discover? (names : TypeNames) (text : String) : Option (List Resource) :=
  (itemsOfText? text.toList).map (resourcesOfItems names)

end ResourceRoutes.Source
