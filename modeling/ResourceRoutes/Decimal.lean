set_option autoImplicit false

namespace ResourceRoutes

def natBound : Nat := Nat.pow 2 64

-- The number is `digits · 10 ^ exponent`, and its digits do not start with zero.
structure Decimal where
  digits : List Char
  exponent : Int
deriving Repr

namespace Decimal

def digitsValue (cs : List Char) : Nat := cs.foldl (fun n c => 10 * n + (c.toNat - '0'.toNat)) 0

def exponentOf : List Char → Int
  | _ :: '-' :: digits => -(digitsValue digits : Int)
  | _ :: '+' :: digits => digitsValue digits
  | _ :: digits => digitsValue digits
  | [] => 0

def ofSpelling (spelling : List Char) : Decimal :=
  let unsigned := spelling.dropWhile fun c => c == '-' || c == '+'
  let whole := unsigned.takeWhile Char.isDigit
  let rest := unsigned.dropWhile Char.isDigit
  let (fraction, rest) := match rest with
    | '.' :: rest => (rest.takeWhile Char.isDigit, rest.dropWhile Char.isDigit)
    | _ => ([], rest)
  ⟨(whole ++ fraction).dropWhile (· == '0'), exponentOf rest - fraction.length⟩

-- The least number that no finite float of 64 bits is nearest to.
def floatBound : Nat := Nat.pow 2 1024 - Nat.pow 2 970

-- The nearest float of 64 bits is finite. Only numbers of 309 digits are compared: shorter ones are below
-- the bound and longer ones above it.
def isFinite (number : Decimal) : Bool :=
  let magnitude := number.digits.length + number.exponent
  if number.digits.isEmpty || magnitude < 309 then true
  else if magnitude > 309 then false
  else digitsValue number.digits * Nat.pow 10 number.exponent.toNat
    < floatBound * Nat.pow 10 (-number.exponent).toNat

end Decimal

end ResourceRoutes
