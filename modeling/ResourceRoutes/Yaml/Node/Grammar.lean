import ResourceRoutes.Yaml.Node
set_option autoImplicit false

namespace ResourceRoutes.Yaml

structure TokenStream where
  tokens : List Token
  handles : List (List Char × List Char) := []
  anchors : List (List Char × Nat) := []
deriving Repr

namespace TokenStream

def next? (s : TokenStream) : Option Token := s.tokens.head?

def drop (s : TokenStream) : TokenStream := { s with tokens := s.tokens.tail }

def nextIn (s : TokenStream) (kinds : List Token) : Bool := s.next?.all kinds.contains

-- Numbers a new anchor by how many names there are, so that a name used again gets a new number.
def declare (s : TokenStream) (name : List Char) : Nat × TokenStream :=
  let number := s.anchors.length
  (number, { s with anchors := (name, number) :: s.anchors.filter (·.1 != name) })

def resolveTag? (s : TokenStream) (handle ending : List Char) : Option (List Char) :=
  if handle.isEmpty then some ending else (s.handles.lookup handle).map (· ++ ending)

def anchor (s : TokenStream) : Option Nat × TokenStream :=
  match s.next? with
  | some (.anchor name) =>
    let (number, s) := s.drop.declare name
    (some number, s)
  | _ => (none, s)

def tag? (s : TokenStream) : Option (Option (List Char) × TokenStream) :=
  match s.next? with
  | some (.tag handle ending) => do
    let tag ← s.resolveTag? handle ending
    return (some tag, s.drop)
  | _ => some (none, s)

def properties? (s : TokenStream) : Option (Properties × TokenStream) := do
  let (first, s) := s.anchor
  let (tag, s) ← s.tag?
  match first with
  | some anchor => return (⟨some anchor, tag⟩, s)
  | none =>
    if tag.isSome then
      let (anchor, s) := s.anchor
      return (⟨anchor, tag⟩, s)
    else return (⟨none, none⟩, s)

end TokenStream

-- Where a node stands decides whether it may be a block, and whether it may be a sequence that is not
-- indented.
inductive Place where
  | block
  | blockOfMapping
  | flow
deriving DecidableEq, Repr

-- A scalar marked by one exclamation mark has no tag.
def scalarProperties (properties : Properties) : Properties :=
  if properties.tag = some ['!'] then { properties with tag := none } else properties

mutual
def node? : Nat → Place → TokenStream → Option (Node × TokenStream)
  | 0, _, _ => none
  | fuel + 1, place, s =>
    match s.next? with
    | some (.alias name) => do
      let anchor ← s.anchors.lookup name
      return (.alias anchor, s.drop)
    | _ => do
      let (properties, s) ← s.properties?
      match s.next? with
      | some .blockEntry =>
        if place = .blockOfMapping then do
          let (items, s) ← unindentedItems? fuel s
          return (.sequence properties items, s)
        else if properties = {} then none
        else return (Node.empty properties, s)
      | some (.scalar text style) => return (.scalar (scalarProperties properties) text style, s.drop)
      | some .flowSequenceStart => do
        let (items, s) ← flowItems? fuel true s.drop
        return (.sequence properties items, s)
      | some .flowMappingStart => do
        let (entries, s) ← flowEntries? fuel true s.drop
        return (.mapping properties entries, s)
      | some .blockSequenceStart =>
        if place = .flow then (if properties = {} then none else return (Node.empty properties, s))
        else do
          let (items, s) ← blockItems? fuel s.drop
          return (.sequence properties items, s)
      | some .blockMappingStart =>
        if place = .flow then (if properties = {} then none else return (Node.empty properties, s))
        else do
          let (entries, s) ← blockEntries? fuel s.drop
          return (.mapping properties entries, s)
      | _ => if properties = {} then none else return (Node.empty properties, s)

def nodeBefore? : Nat → Place → List Token → TokenStream → Option (Node × TokenStream)
  | 0, _, _, _ => none
  | fuel + 1, place, followers, s =>
    if s.nextIn followers then some (Node.empty {}, s) else node? fuel place s

def blockItems? : Nat → TokenStream → Option (List Node × TokenStream)
  | 0, _ => none
  | fuel + 1, s =>
    match s.next? with
    | some .blockEntry => do
      let (item, s) ← nodeBefore? fuel .block [.blockEntry, .blockEnd] s.drop
      let (items, s) ← blockItems? fuel s
      return (item :: items, s)
    | some .blockEnd => some ([], s.drop)
    | _ => none

def unindentedItems? : Nat → TokenStream → Option (List Node × TokenStream)
  | 0, _ => none
  | fuel + 1, s =>
    match s.next? with
    | some .blockEntry => do
      let (item, s) ← nodeBefore? fuel .block [.blockEntry, .key, .value, .blockEnd] s.drop
      let (items, s) ← unindentedItems? fuel s
      return (item :: items, s)
    | _ => some ([], s)

def blockEntries? : Nat → TokenStream → Option (List (Node × Node) × TokenStream)
  | 0, _ => none
  | fuel + 1, s =>
    match s.next? with
    | some .blockEnd => some ([], s.drop)
    | some .key => do
      let (key, s) ← nodeBefore? fuel .blockOfMapping [.key, .value, .blockEnd] s.drop
      let (value, s) ← blockValue? fuel s
      let (entries, s) ← blockEntries? fuel s
      return ((key, value) :: entries, s)
    | _ => none

def blockValue? : Nat → TokenStream → Option (Node × TokenStream)
  | 0, _ => none
  | fuel + 1, s =>
    match s.next? with
    | some .value => nodeBefore? fuel .blockOfMapping [.key, .value, .blockEnd] s.drop
    | _ => some (Node.empty {}, s)

def flowItems? : Nat → Bool → TokenStream → Option (List Node × TokenStream)
  | 0, _, _ => none
  | fuel + 1, first, s =>
    if s.next? = some .flowSequenceEnd then some ([], s.drop)
    else do
      let s ← if first then some s else if s.next? = some .flowEntry then some s.drop else none
      match s.next? with
      | some .flowSequenceEnd => return ([], s.drop)
      | some .key => do
        let (item, s) ← flowPair? fuel s.drop
        let (items, s) ← flowItems? fuel false s
        return (item :: items, s)
      | _ => do
        let (item, s) ← node? fuel .flow s
        let (items, s) ← flowItems? fuel false s
        return (item :: items, s)

def flowPair? : Nat → TokenStream → Option (Node × TokenStream)
  | 0, _ => none
  | fuel + 1, s => do
    let (key, s) ←
      if s.nextIn [.value, .flowEntry, .flowSequenceEnd] then some (Node.empty {}, s.drop)
      else node? fuel .flow s
    let (value, s) ←
      if s.next? = some .value then nodeBefore? fuel .flow [.flowEntry, .flowSequenceEnd] s.drop
      else some (Node.empty {}, s)
    return (.mapping {} [(key, value)], s)

def flowEntries? : Nat → Bool → TokenStream → Option (List (Node × Node) × TokenStream)
  | 0, _, _ => none
  | fuel + 1, first, s =>
    if s.next? = some .flowMappingEnd then some ([], s.drop)
    else do
      let s ← if first then some s else if s.next? = some .flowEntry then some s.drop else none
      match s.next? with
      | some .flowMappingEnd => return ([], s.drop)
      | some .key => do
        let (key, s) ← nodeBefore? fuel .flow [.value, .flowEntry, .flowMappingEnd] s.drop
        let (value, s) ←
          if s.next? = some .value then nodeBefore? fuel .flow [.flowEntry, .flowMappingEnd] s.drop
          else some (Node.empty {}, s)
        let (entries, s) ← flowEntries? fuel false s
        return ((key, value) :: entries, s)
      | _ => do
        let (key, s) ← node? fuel .flow s
        let (entries, s) ← flowEntries? fuel false s
        return ((key, Node.empty {}) :: entries, s)
end

def defaultHandles : List (List Char × List Char) :=
  [("!".toList, "!".toList), ("!!".toList, "tag:yaml.org,2002:".toList)]

def directives? : Bool → List (List Char × List Char) → List Token →
    Option (List (List Char × List Char) × List Token)
  | versioned, handles, .version major minor :: rest =>
    if versioned || major != 1 || (minor != 1 && minor != 2) then none else directives? true handles rest
  | versioned, handles, .tagHandle handle leading :: rest =>
    if (handles.lookup handle).isSome then none else directives? versioned ((handle, leading) :: handles) rest
  | _, handles, rest => some (handles, rest)

structure Tree where
  root : Option Node
  anchors : List (Nat × Node) := []
deriving Repr

def Tree.ofNode (root : Node) : Tree := ⟨some root, root.anchored.reverse⟩

def endsDocument (tokens : List Token) : Bool := tokens.all (· == .documentEnd)

def content? (marked : Bool) (s : TokenStream) : Option (Node × TokenStream) :=
  match s.next? with
  | none | some .documentStart | some .documentEnd | some (.version _ _) | some (.tagHandle _ _) =>
    if marked then some (Node.empty {}, s) else none
  | _ => node? (4 * s.tokens.length + 4) .block s

def Tree.ofTokens? (tokens : List Token) : Option Tree := do
  if tokens.isEmpty then return ⟨none, []⟩
  let (handles, rest) ← directives? false [] tokens
  let marked := rest.head? == some .documentStart
  if !marked && rest.length != tokens.length then none
  else
    let rest := if marked then rest.tail else rest
    let (root, s) ← content? marked { tokens := rest, handles := handles ++ defaultHandles }
    if endsDocument s.tokens then return Tree.ofNode root else none

end ResourceRoutes.Yaml
