import ResourceRoutes.Decimal
set_option autoImplicit false

namespace ResourceRoutes.Yaml

-- A natural number has at most 64 bits. Further integers are narrow if 64 bits with a sign hold them, and
-- wide if 128 bits do.
inductive Meaning where
  | null
  | flag (value : Bool)
  | nat (n : Nat)
  | narrowInteger
  | wideInteger
  | float
  | text
deriving DecidableEq, Repr

namespace Meaning

def isNull (cs : List Char) : Bool := ["null", "Null", "NULL", "~"].contains (String.ofList cs)

def flag? (cs : List Char) : Option Bool :=
  if ["true", "True", "TRUE"].contains (String.ofList cs) then some true
  else if ["false", "False", "FALSE"].contains (String.ofList cs) then some false
  else none

def isSign (c : Char) : Bool := c == '+' || c == '-'

def startsSigned (cs : List Char) : Bool := cs.head?.any isSign

def isZeroPadded (cs : List Char) : Bool :=
  match if startsSigned cs then cs.tail else cs with
  | '0' :: rest => !rest.isEmpty && rest.all Char.isDigit
  | _ => false

def digit? (base : Nat) (c : Char) : Option Nat :=
  let n :=
    if c.isDigit then c.toNat - 48
    else if 'a' ≤ c ∧ c ≤ 'z' then c.toNat - 87
    else if 'A' ≤ c ∧ c ≤ 'Z' then c.toNat - 55
    else base
  if n < base then some n else none

def number? (base : Nat) (cs : List Char) : Option Nat :=
  if cs.isEmpty then none else (cs.mapM (digit? base)).map fun ds => ds.foldl (fun n d => base * n + d) 0

def marked? (cs : List Char) : Option Nat :=
  match cs with
  | '0' :: 'x' :: digits => number? 16 digits
  | '0' :: 'o' :: digits => number? 8 digits
  | '0' :: 'b' :: digits => number? 2 digits
  | _ => none

def unsigned? (cs : List Char) : Option Nat :=
  let digits := if cs.head? = some '+' then cs.tail else cs
  match marked? digits with
  | some n => some n
  | none => if isZeroPadded cs then none else number? 10 digits

def negative? (cs : List Char) : Option Nat :=
  match cs with
  | '-' :: digits =>
    match marked? digits with
    | some n => some n
    | none => if isZeroPadded cs then none else number? 10 digits
  | _ => none

def dropExponent (cs : List Char) : List Char :=
  match cs with
  | 'e' :: rest | 'E' :: rest =>
    let digits := if startsSigned rest then rest.tail else rest
    if digits.isEmpty then cs else digits.dropWhile Char.isDigit
  | _ => cs

def isDecimal (cs : List Char) : Bool :=
  let whole := cs.takeWhile Char.isDigit
  let rest := cs.dropWhile Char.isDigit
  let (fraction, rest) := match rest with
    | '.' :: rest => (rest.takeWhile Char.isDigit, rest.dropWhile Char.isDigit)
    | _ => ([], rest)
  !(whole.isEmpty && fraction.isEmpty) && (dropExponent rest).isEmpty

def isInfinity (cs : List Char) : Bool := [".inf", ".Inf", ".INF"].contains (String.ofList cs)

def isNotANumber (cs : List Char) : Bool := [".nan", ".NaN", ".NAN"].contains (String.ofList cs)

def isFloat (cs : List Char) : Bool :=
  let unsigned := if startsSigned cs then cs.tail else cs
  isInfinity unsigned || (isNotANumber unsigned && cs.head? != some '-')
    || (isDecimal unsigned && (Decimal.ofSpelling unsigned).isFinite)

def ofInteger? (cs : List Char) : Option Meaning :=
  match unsigned? cs with
  | some n =>
    if n < natBound then some (.nat n) else if n < Nat.pow 2 128 then some .wideInteger else none
  | none =>
    match negative? cs with
    | some n => if n ≤ Nat.pow 2 63 then some .narrowInteger else if n ≤ Nat.pow 2 127 then some .wideInteger else none
    | none => none

def ofPlain (cs : List Char) : Meaning :=
  if cs.isEmpty || isNull cs then .null
  else
    match flag? cs with
    | some value => .flag value
    | none =>
      match ofInteger? cs with
      | some meaning => meaning
      | none => if !isZeroPadded cs && isFloat cs then .float else .text

end Meaning

end ResourceRoutes.Yaml
