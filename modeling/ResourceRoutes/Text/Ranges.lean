set_option autoImplicit false

namespace ResourceRoutes.Text

def within (n : Nat) : List (Nat × Nat) → Bool
  | [] => false
  | (first, last) :: rest => if n < first then false else n ≤ last || within n rest

end ResourceRoutes.Text
