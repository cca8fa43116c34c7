import ResourceRoutes.Text.Casing
set_option autoImplicit false

namespace ResourceRoutes.Source

def camelFrom (begins : Bool) : List Char → List Char
  | [] => []
  | c :: rest =>
    if c = '_' then camelFrom true rest
    else (if begins then Text.upperChar c else [c]) ++ camelFrom false rest

def toCamelCase (cs : List Char) : List Char := camelFrom true cs

def afterSeparator? : List Char → Option (List Char)
  | [] => none
  | c :: rest =>
    match afterSeparator? rest with
    | some found => some found
    | none => if c = ':' ∧ rest.head? = some ':' then some rest.tail else none

def lastSegment (path : List Char) : List Char := (afterSeparator? path).getD path

end ResourceRoutes.Source
