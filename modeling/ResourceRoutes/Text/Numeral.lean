import ResourceRoutes.Decimal
set_option autoImplicit false

namespace ResourceRoutes.Text

def numeral? (cs : List Char) : Option Nat :=
  let digits := if cs.head? = some '+' then cs.tail else cs
  let n := Decimal.digitsValue digits
  if !digits.isEmpty && digits.all Char.isDigit && n < natBound then some n else none

end ResourceRoutes.Text
