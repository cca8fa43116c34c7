import ResourceRoutes.Source.Token
set_option autoImplicit false

namespace ResourceRoutes.Source

abbrev Parser (α : Type) := StateT (List Tree) Option α

def keywords : List (List Char) :=
  ["_", "abstract", "as", "async", "await", "become", "box", "break", "const", "continue", "crate", "do", "dyn",
    "else", "enum", "extern", "false", "final", "fn", "for", "if", "impl", "in", "let", "loop", "macro", "match",
    "mod", "move", "mut", "override", "priv", "pub", "ref", "return", "Self", "self", "static", "struct", "super",
    "trait", "true", "try", "type", "typeof", "unsafe", "unsized", "use", "virtual", "where", "while",
    "yield"].map String.toList

-- The trees begin with the operator, whose characters are joint. A single character may also begin a longer
-- operator.
def beginsOp : List Char → List Tree → Bool
  | [], _ => true
  | [c], .punct d _ :: _ => c == d
  | c :: rest, .punct d joint :: trees => c == d && joint && beginsOp rest trees
  | _, _ => false

def atOp (s : String) (trees : List Tree) : Bool := beginsOp s.toList trees

def atWord (s : String) : List Tree → Bool
  | .ident name :: _ => name == s.toList
  | _ => false

def atAnyWord (words : List String) (trees : List Tree) : Bool := words.any (atWord · trees)

def atIdent : List Tree → Bool
  | .ident name :: _ => !keywords.contains name
  | _ => false

def atAnyIdent : List Tree → Bool
  | .ident _ :: _ => true
  | _ => false

def atLifetime : List Tree → Bool
  | .lifetime _ :: _ => true
  | _ => false

def atGroup (delimiter : Delimiter) : List Tree → Bool
  | .group d _ :: _ => d == delimiter
  | _ => false

def isStringLiteral (text : List Char) : Bool := text.head? == some '"' || text.head? == some 'r'

def atStringLiteral : List Tree → Bool
  | .literal text :: _ => isStringLiteral text
  | _ => false

def atLiteral : List Tree → Bool
  | .literal _ :: _ => true
  | .ident name :: _ => name == "true".toList || name == "false".toList
  | .punct '-' _ :: .literal text :: _ => text.head?.any Char.isDigit
  | _ => false

def atColon (trees : List Tree) : Bool := atOp ":" trees && !atOp "::" trees

namespace Parser

variable {α : Type}

def fail : Parser α := failure

def sees (look : List Tree → Bool) : Parser Bool := do return look (← get)

def expect (look : List Tree → Bool) : Parser Unit := do if look (← get) then pure () else fail

def skip (n : Nat) : Parser Unit := modify (·.drop n)

def anyTree : Parser Tree := do
  match ← get with
  | tree :: rest =>
    set rest
    return tree
  | [] => fail

def op (s : String) : Parser Unit := do
  expect (atOp s)
  skip s.length

def word (s : String) : Parser Unit := do
  expect (atWord s)
  skip 1

def opIf (s : String) : Parser Bool := do
  let present ← sees (atOp s)
  if present then skip s.length
  return present

def wordIf (s : String) : Parser Bool := do
  let present ← sees (atWord s)
  if present then skip 1
  return present

def anyIdent : Parser (List Char) := do
  match ← anyTree with
  | .ident name => return name
  | _ => fail

def ident : Parser (List Char) := do
  expect atIdent
  anyIdent

def lifetime : Parser (List Char) := do
  match ← anyTree with
  | .lifetime name => return name
  | _ => fail

def lifetimeIf : Parser (Option (List Char)) := do
  if ← sees atLifetime then return some (← lifetime) else return none

def all (p : Parser α) (trees : List Tree) : Option α :=
  match p trees with
  | some (a, []) => some a
  | _ => none

def inGroup (delimiter : Delimiter) (p : Parser α) : Parser α := do
  match ← anyTree with
  | .group d content => if d = delimiter then liftM (m := Option) (p.all content) else fail
  | _ => fail

def group (delimiter : Delimiter) : Parser (List Tree) := inGroup delimiter do
  let content ← get
  set ([] : List Tree)
  return content

def atEnd : Parser Bool := sees List.isEmpty

def taken (p : Parser Unit) : Parser (List Tree) := do
  let before ← get
  p
  return before.take (before.length - (← get).length)

def untilEnd (item : Parser α) : Nat → Parser (List α)
  | 0 => fail
  | fuel + 1 => do
    if ← atEnd then return []
    let a ← item
    return a :: (← untilEnd item fuel)

def listed (item : Parser α) : Nat → Parser (List α × Bool)
  | 0 => fail
  | fuel + 1 => do
    if ← atEnd then return ([], true)
    let a ← item
    if ← atEnd then return ([a], false)
    op ","
    let (rest, trailing) ← listed item fuel
    return (a :: rest, trailing)

def fuel : Parser Nat := do return (← get).length + 1

-- Number of steps into each other that suffices for what is left. Each token takes a few.
def depthFuel : Parser Nat := do return 16 * (Tree.sizeOfAll (← get) + 1)

def many (item : Parser α) : Parser (List α) := do untilEnd item (← fuel)

def commaList (item : Parser α) : Parser (List α × Bool) := do listed item (← fuel)

end Parser

end ResourceRoutes.Source
