import ResourceRoutes.Files
import ResourceRoutes.Text.Pieces
set_option autoImplicit false

namespace ResourceRoutes

inductive FileEntry where
  | directory
  | text (content : String)
  | binary
deriving DecidableEq, Repr

def FileEntry.ofBytes (bytes : List UInt8) : FileEntry :=
  match String.fromUTF8? ⟨bytes.toArray⟩ with
  | some content => .text content
  | none => .binary

structure FileTree where
  entries : List (List String × FileEntry) := []
deriving DecidableEq, Repr

namespace FileTree

def entry? (tree : FileTree) (names : List String) : Option FileEntry :=
  match tree.entries.lookup names with
  | some entry => some entry
  | none =>
    if names.isEmpty || tree.entries.any (fun entry => names.isPrefixOf entry.1) then some .directory else none

def put (tree : FileTree) (names : List String) (entry : FileEntry) : FileTree :=
  ⟨tree.entries.filter (·.1 != names) ++ [(names, entry)]⟩

def nameLimit : Nat := 255

def find (tree : FileTree) (names : List String) : Except FileFault FileEntry :=
  if names.any fun name => name.utf8ByteSize > nameLimit then .error .nameTooLong
  else
    match tree.entry? names with
    | some entry => .ok entry
    | none => .error .missing

def enter (tree : FileTree) (place : List String) (name : String) : Except FileFault (List String) :=
  if name = "" ∨ name = "." then .ok place
  else if name = ".." then if place = [] then .error .missing else .ok place.dropLast
  else do
    match ← tree.find (place ++ [name]) with
    | .directory => return place ++ [name]
    | _ => .error .notDirectory

def componentsOf (path : List Char) : List String := (Text.pieces '/' path).map String.ofList

def namesOf (path : String) : List String :=
  (componentsOf path.toList).filter fun name => name != "" && name != "."

def ofFiles (files : List (String × FileEntry)) : FileTree :=
  files.foldl (fun tree file => tree.put (namesOf file.1) file.2) {}

def pathBound : Nat := 4096

def checkPath (path : String) : Except FileFault Unit :=
  if path.toList.contains '\x00' then .error .nameWithNul
  else if path = "" then .error .missing
  else if pathBound ≤ path.utf8ByteSize then .error .nameTooLong
  else if path.toList.all (· == '/') then .error .isDirectory
  else if path.toList.head? = some '/' then .error .missing
  else .ok ()

def isStep (name : String) : Bool := name == "" || name == "." || name == ".."

def read (tree : FileTree) (path : String) : Except FileFault String := do
  checkPath path
  let components := componentsOf path.toList
  let last := components.getLast?.getD ""
  let place ← components.dropLast.foldlM tree.enter []
  if isStep last then do
    let _ ← tree.enter place last
    .error .isDirectory
  else
    match ← tree.find (place ++ [last]) with
    | .directory => .error .isDirectory
    | .binary => .error .notText
    | .text content => .ok content

def write (tree : FileTree) (path content : String) : Except FileFault FileTree := do
  checkPath path
  let trimmed := (path.toList.reverse.dropWhile (· == '/')).reverse
  let components := componentsOf trimmed
  let last := components.getLast?.getD ""
  let place ← components.dropLast.foldlM tree.enter []
  if isStep last then do
    let _ ← tree.enter place last
    .error .isDirectory
  else if trimmed.length < path.length then .error .isDirectory
  else if last.utf8ByteSize > nameLimit then .error .nameTooLong
  else
    match tree.entry? (place ++ [last]) with
    | some .directory => .error .isDirectory
    | _ => .ok (tree.put (place ++ [last]) (.text content))

def changesSince (tree earlier : FileTree) : List (List String × FileEntry) :=
  tree.entries.filter fun entry => earlier.entries.lookup entry.1 != some entry.2

def access : FileAccess (StateM FileTree) where
  readText path := do return (← get).read path
  writeText path content := do
    match (← get).write path content with
    | .ok tree => set tree; return .ok ()
    | .error fault => return .error fault

end FileTree

end ResourceRoutes
