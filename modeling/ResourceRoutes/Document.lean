set_option autoImplicit false

namespace ResourceRoutes

inductive Document where
  | text (content : String)
  | nat (n : Nat)
  | flag (value : Bool)
  | list (items : List Document)
  | record (fields : List (String × Document))
deriving Repr

end ResourceRoutes
