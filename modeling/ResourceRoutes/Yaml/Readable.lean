import ResourceRoutes.Datum
import ResourceRoutes.Yaml.Node.Grammar
import ResourceRoutes.Yaml.Scalar
import ResourceRoutes.Yaml.Token.Scan
set_option autoImplicit false

namespace ResourceRoutes.Yaml

def read? (cs : List Char) : Option Tree := tokens? cs >>= Tree.ofTokens?

-- A node together with those that aliases in it refer to, and the size of the document; there is no node
-- in an empty text.
structure View where
  anchors : List (Nat × Node)
  size : Nat
  node? : Option Node
deriving Repr

namespace View

def ofTree (tree : Tree) : View := ⟨tree.anchors, (tree.root.map Node.size).getD 0, tree.root⟩

def of (view : View) (node : Node) : View := { view with node? := some node }

def target? (view : View) : Option Node :=
  match view.node? with
  | some (.alias anchor) => view.anchors.lookup anchor
  | node? => node?

def coreTag (name : String) : List Char := "tag:yaml.org,2002:".toList ++ name.toList

-- Only what is written plainly is a number or truth value, and a literal block that is tagged as such.
def isTyped (tag : String) (properties : Properties) (style : Style) : Bool :=
  style == .plain || (style == .literal && properties.tag == some (coreTag tag))

def text? (view : View) : Option String :=
  match view.target? with
  | some (.scalar _ text _) => some (String.ofList text)
  | _ => none

def flag? (view : View) : Option Bool :=
  match view.target? with
  | some (.scalar properties text style) => if isTyped "bool" properties style then Meaning.flag? text else none
  | _ => none

def nat? (view : View) : Option Nat :=
  match view.target? with
  | some (.scalar properties text style) =>
    if isTyped "int" properties style then (Meaning.unsigned? text).filter (· < natBound) else none
  | _ => none

def items? (view : View) : Option (List View) :=
  match view.target? with
  | none => if view.node?.isNone then some [] else none
  | some (.scalar _ [] .plain) => some []
  | some (.sequence _ items) => some (items.map view.of)
  | _ => none

def namedEntries (view : View) (entries : List (Node × Node)) : Fields View :=
  let named := entries.map fun entry => (view.of entry.1).text?.map (·, view.of entry.2)
  ⟨(named.takeWhile Option.isSome).filterMap id, named.all Option.isSome⟩

def fields? (view : View) : Option (Fields View) :=
  match view.target? with
  | none => if view.node?.isNone then some ⟨[], true⟩ else none
  | some (.scalar _ [] .plain) => some ⟨[], true⟩
  | some (.mapping _ entries) => some (view.namedEntries entries)
  | _ => none

instance : Readable View where
  text? := text?
  flag? := flag?
  nat? := nat?
  items? := items?
  fields? _ := fields?

def depthLimit : Nat := 128

def aliasesPerMark : Nat := 100

def datumOfMeaning? (text : List Char) : Meaning → Option Datum
  | .null => some .null
  | .flag value => some (.flag value)
  | .nat n => some (.nat n)
  | .narrowInteger | .float => some .other
  | .wideInteger => none
  | .text => some (.text (String.ofList text))

def scalarDatum? (properties : Properties) (text : List Char) (style : Style) : Option Datum :=
  match properties.tag with
  | some ('!' :: _) => none
  | tag =>
    if tag = some (coreTag "bool") then (Meaning.flag? text).map .flag
    else if tag = some (coreTag "int") then
      match Meaning.ofInteger? text with
      | some meaning => datumOfMeaning? text meaning
      | none => none
    else if tag = some (coreTag "float") then if Meaning.isFloat text then some .other else none
    else if tag = some (coreTag "null") then if Meaning.isNull text then some .null else none
    else if style = .plain ∧ tag = none then datumOfMeaning? text (Meaning.ofPlain text)
    else some (.text (String.ofList text))

def isPrivate (properties : Properties) : Bool :=
  match properties.tag with
  | some ('!' :: _) => true
  | _ => false

abbrev Followed := StateT Nat Option

def follow : Followed Unit := do
  let left ← get
  if left = 0 then failure else set (left - 1)

def resolve (anchors : List (Nat × Node)) (node : Node) : Followed Node :=
  match node with
  | .alias anchor => do
    follow
    match anchors.lookup anchor with
    | some node => pure node
    | none => failure
  | node => pure node

def nodeDatum (anchors : List (Nat × Node)) : Nat → Node → Followed Datum
  | room, node => do
    match ← resolve anchors node with
    | .scalar properties text style =>
      match scalarDatum? properties text style with
      | some d => pure d
      | none => failure
    | .alias _ => failure
    | .sequence properties items =>
      match room with
      | 0 => failure
      | room + 1 =>
        if isPrivate properties then failure
        else return .list (← items.mapM (nodeDatum anchors room))
    | .mapping properties entries =>
      match room with
      | 0 => failure
      | room + 1 =>
        if isPrivate properties then failure
        else return .table (← entries.mapM fun entry => do
          return (← nodeDatum anchors room entry.1, ← nodeDatum anchors room entry.2))

def datum? (view : View) : Option Datum :=
  view.node?.bind fun node =>
    ((nodeDatum view.anchors (depthLimit - 2) node).run (aliasesPerMark * view.size)).map (·.1)

def entries? (view : View) : Option (List (String × View)) :=
  match view.target? with
  | some (.mapping _ entries) =>
    entries.mapM fun entry => (view.of entry.1).text?.map (·, view.of entry.2)
  | some (.scalar _ [] .plain) => some []
  | _ => none

instance : Bufferable View where
  entries? := entries?
  datum? := datum?

end View

end ResourceRoutes.Yaml
