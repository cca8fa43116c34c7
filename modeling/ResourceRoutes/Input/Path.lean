import ResourceRoutes.Document.Format
import ResourceRoutes.Text.Pieces
set_option autoImplicit false

namespace ResourceRoutes.Input

-- The last component of a path. Slashes at the end, and components that stay in place, do not count; a
-- path that ends by going up has none.
def fileName? (path : List Char) : Option (List Char) :=
  match ((Text.pieces '/' path).filter fun piece => piece ≠ [] ∧ piece ≠ ['.']).getLast? with
  | some ['.', '.'] => none
  | last? => last?

def splitLastDot? : List Char → Option (List Char × List Char)
  | [] => none
  | c :: rest =>
    match splitLastDot? rest with
    | some (before, after) => some (c :: before, after)
    | none => if c = '.' then some ([], rest) else none

def splitExtension (name : List Char) : List Char × Option (List Char) :=
  match splitLastDot? name with
  | some ([], _) | none => (name, none)
  | some (before, after) => (before, some after)

def stem? (path : List Char) : Option (List Char) := (fileName? path).map fun name => (splitExtension name).1

def extension? (path : List Char) : Option (List Char) := fileName? path >>= fun name => (splitExtension name).2

inductive Kind where
  | source
  | manifest (format : DocumentFormat)
deriving DecidableEq, Repr

def Kind.ofExtension? (extension : List Char) : Option Kind :=
  match String.ofList extension with
  | "rs" => some .source
  | "json" => some (.manifest .json)
  | "yaml" | "yml" => some (.manifest .yaml)
  | _ => none

def Kind.ofPath? (path : String) : Option Kind := extension? path.toList >>= Kind.ofExtension?

def moduleNameOf (path : String) : String := ((stem? path.toList).map String.ofList).getD ""

def replacedEndings : List (List Char) := [".rs", ".json", ".yaml", ".yml"].map String.toList

-- The path without an ending that names a kind of input. Over more than one line it stays whole.
def withoutEnding (path : List Char) : List Char :=
  if path.contains '\n' then path
  else
    match replacedEndings.find? (·.isSuffixOf path) with
    | some ending => path.take (path.length - ending.length)
    | none => path

def defaultOutput (path : String) (format : DocumentFormat) : String :=
  String.ofList (withoutEnding path.toList) ++ "_resources." ++ format.name

end ResourceRoutes.Input
