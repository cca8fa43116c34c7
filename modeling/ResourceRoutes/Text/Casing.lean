import ResourceRoutes.Text.Ranges
import ResourceRoutes.Text.Casing.Table
set_option autoImplicit false

namespace ResourceRoutes.Text

def CaseRun.image? (run : CaseRun) (n : Nat) : Option Nat :=
  if n ≤ run.last && (n - run.first) % run.step == 0 then some (n + run.shift).toNat else none

def mapByRuns (n : Nat) : List CaseRun → Nat
  | [] => n
  | run :: rest => if n < run.first then n else (run.image? n).getD (mapByRuns n rest)

def mapCase (expansions : List (Nat × List Nat)) (runs : List CaseRun) (c : Char) : List Char :=
  match expansions.lookup c.toNat with
  | some codes => codes.map Char.ofNat
  | none => [Char.ofNat (mapByRuns c.toNat runs)]

def upperChar (c : Char) : List Char := mapCase upperExpansions upperRuns c

def lowerChar (c : Char) : List Char := mapCase lowerExpansions lowerRuns c

def isCased (c : Char) : Bool := within c.toNat casedRanges

def isCaseIgnorable (c : Char) : Bool := within c.toNat caseIgnorableRanges

def meetsCased (cs : List Char) : Bool := (cs.dropWhile isCaseIgnorable).head?.any isCased

-- Lower case of `cs`, where `before` is what precedes it, nearest character first. A capital sigma
-- ends a word when a cased letter stands before it and none after it, skipping case-ignorables.
def lowerAfter (before : List Char) : List Char → List Char
  | [] => []
  | c :: rest =>
    (if c = 'Σ' then (if meetsCased before && !meetsCased rest then ['ς'] else ['σ']) else lowerChar c)
      ++ lowerAfter (c :: before) rest

def lowercase (s : String) : String := String.ofList (lowerAfter [] s.toList)

end ResourceRoutes.Text
