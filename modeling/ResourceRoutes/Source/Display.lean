import ResourceRoutes.Source.Function
set_option autoImplicit false

namespace ResourceRoutes.Source

def gluesAfter : List Char → Bool
  | ':' :: ':' :: _ => true
  | c :: _ => "&<([".toList.contains c
  | [] => false

def gluesBefore : List Char → Bool
  | c :: _ => "<>)],:;".toList.contains c
  | [] => false

def tidyAfter (shown : List Char) : List Char → List Char
  | [] => shown.reverse
  | c :: rest =>
    if c = ' ' ∧ (gluesAfter shown ∨ gluesBefore rest) then tidyAfter shown rest
    else tidyAfter (c :: shown) rest

-- Drops the blanks that source text does not have. What precedes a blank is judged by what is left of it.
def tidy (cs : List Char) : List Char := tidyAfter [] cs

def shown (trees : List Tree) : String := String.ofList (tidy (Tree.textOfAll trees))

def TypeExpr.display (t : TypeExpr) : String := shown t.trees

end ResourceRoutes.Source
