import ResourceRoutes.Json
set_option autoImplicit false

namespace ResourceRoutes.Json

def inQuotes (spelling : List Char) : List Char := '"' :: spelling ++ ['"']

def indentation (depth : Nat) : List Char := List.replicate (2 * depth) ' '

mutual
def compact : Json → List Char
  | .null => "null".toList
  | .bool value => if value then "true".toList else "false".toList
  | .number spelling => spelling
  | .string spelling => inQuotes spelling
  | .array items => '[' :: compactItems items ++ [']']
  | .object members => Char.ofNat 0x7B :: compactMembers members ++ [Char.ofNat 0x7D]

def compactItems : List Json → List Char
  | [] => []
  | [item] => compact item
  | item :: rest => compact item ++ ',' :: compactItems rest

def compactMembers : List (List Char × Json) → List Char
  | [] => []
  | [(key, value)] => inQuotes key ++ ':' :: compact value
  | (key, value) :: rest => inQuotes key ++ ':' :: compact value ++ ',' :: compactMembers rest
end

mutual
def pretty (depth : Nat) : Json → List Char
  | .null => "null".toList
  | .bool value => if value then "true".toList else "false".toList
  | .number spelling => spelling
  | .string spelling => inQuotes spelling
  | .array [] => "[]".toList
  | .array (item :: rest) =>
    '[' :: prettyItems (depth + 1) (item :: rest) ++ '\n' :: indentation depth ++ [']']
  | .object [] => [Char.ofNat 0x7B, Char.ofNat 0x7D]
  | .object (member :: rest) =>
    Char.ofNat 0x7B :: prettyMembers (depth + 1) (member :: rest) ++ '\n' :: indentation depth
      ++ [Char.ofNat 0x7D]

def prettyItems (depth : Nat) : List Json → List Char
  | [] => []
  | [item] => '\n' :: indentation depth ++ pretty depth item
  | item :: rest => '\n' :: indentation depth ++ pretty depth item ++ ',' :: prettyItems depth rest

def prettyMembers (depth : Nat) : List (List Char × Json) → List Char
  | [] => []
  | [(key, value)] => '\n' :: indentation depth ++ inQuotes key ++ ':' :: ' ' :: pretty depth value
  | (key, value) :: rest =>
    '\n' :: indentation depth ++ inQuotes key ++ ':' :: ' ' :: pretty depth value
      ++ ',' :: prettyMembers depth rest
end

def render (document : Document) : String := String.ofList (pretty 0 (ofDocument document))

end ResourceRoutes.Json
