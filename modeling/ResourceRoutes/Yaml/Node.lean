import ResourceRoutes.Yaml.Token
set_option autoImplicit false

namespace ResourceRoutes.Yaml

-- What may stand in front of a node. An anchor is a number, under which aliases refer to the node.
structure Properties where
  anchor : Option Nat := none
  tag : Option (List Char) := none
deriving DecidableEq, Repr

inductive Node where
  | scalar (properties : Properties) (text : List Char) (style : Style)
  | sequence (properties : Properties) (items : List Node)
  | mapping (properties : Properties) (entries : List (Node × Node))
  | alias (anchor : Nat)
deriving Repr

namespace Node

def properties : Node → Properties
  | .scalar properties _ _ => properties
  | .sequence properties _ => properties
  | .mapping properties _ => properties
  | .alias _ => {}

def empty (properties : Properties) : Node := .scalar properties [] .plain

def ownAnchor (node : Node) : List (Nat × Node) :=
  match node.properties.anchor with
  | some anchor => [(anchor, node)]
  | none => []

mutual
def anchored : Node → List (Nat × Node)
  | .scalar properties text style => ownAnchor (.scalar properties text style)
  | .sequence properties items => ownAnchor (.sequence properties items) ++ anchoredItems items
  | .mapping properties entries => ownAnchor (.mapping properties entries) ++ anchoredEntries entries
  | .alias _ => []

def anchoredItems : List Node → List (Nat × Node)
  | [] => []
  | item :: rest => item.anchored ++ anchoredItems rest

def anchoredEntries : List (Node × Node) → List (Nat × Node)
  | [] => []
  | (key, value) :: rest => key.anchored ++ value.anchored ++ anchoredEntries rest
end

mutual
def size : Node → Nat
  | .scalar _ _ _ | .alias _ => 1
  | .sequence _ items => 2 + sizeOfItems items
  | .mapping _ entries => 2 + sizeOfEntries entries

def sizeOfItems : List Node → Nat
  | [] => 0
  | item :: rest => item.size + sizeOfItems rest

def sizeOfEntries : List (Node × Node) → Nat
  | [] => 0
  | (key, value) :: rest => key.size + value.size + sizeOfEntries rest
end

end Node

end ResourceRoutes.Yaml
