set_option autoImplicit false

namespace ResourceRoutes.Text

-- The first `passed` characters belong to an occurrence of `old` that is replaced already.
def replaceFrom (old new : List Char) : Nat → List Char → List Char
  | _, [] => []
  | passed + 1, _ :: rest => replaceFrom old new passed rest
  | 0, c :: rest =>
    if old.isPrefixOf (c :: rest) then new ++ replaceFrom old new (old.length - 1) rest
    else c :: replaceFrom old new 0 rest

def replace (old new cs : List Char) : List Char := replaceFrom old new 0 cs

end ResourceRoutes.Text
