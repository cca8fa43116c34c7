import ResourceRoutes.Log.Settings
import ResourceRoutes.Text.Alphanumeric
import ResourceRoutes.Text.Blank
import ResourceRoutes.Text.Numeral
import ResourceRoutes.Text.Pieces
set_option autoImplicit false

namespace ResourceRoutes.Log

inductive Threshold where
  | off
  | upTo (level : Level)
deriving DecidableEq, Repr

namespace Threshold

def admits : Threshold → Level → Bool
  | .off, _ => false
  | .upTo most, level => level.rank ≤ most.rank

def ofRank? : Nat → Option Threshold
  | 0 => some .off
  | 1 => some (.upTo .error)
  | 2 => some (.upTo .warn)
  | 3 => some (.upTo .info)
  | 4 => some (.upTo .debug)
  | 5 => some (.upTo .trace)
  | _ => none

def ofText? (cs : List Char) : Option Threshold :=
  match String.ofList (cs.map Char.toLower) with
  | "off" => some .off
  | "error" => some (.upTo .error)
  | "warn" => some (.upTo .warn)
  | "info" => some (.upTo .info)
  | "debug" => some (.upTo .debug)
  | "trace" => some (.upTo .trace)
  | _ => Text.numeral? cs >>= ofRank?

end Threshold

structure Directive where
  target? : Option (List Char)
  threshold : Threshold
deriving DecidableEq, Repr

namespace Directive

def mayBegin (c : Char) : Bool := Text.isAlphanumeric c || ['-', ':', '_', '['].contains c

-- A threshold, a target that all levels are shown of, or a target and a threshold with an equals sign
-- between them. The place of the sign is counted without the blanks in front.
def ofText? (cs : List Char) : Option Directive :=
  let core := Text.trim cs
  if !core.head?.any mayBegin then none
  else
    match core.findIdx? (· == '=') with
    | some i =>
      let level := cs.drop (i + 1)
      if level.isEmpty then some ⟨some (cs.take i), .upTo .trace⟩
      else (Threshold.ofText? level).map (⟨some (cs.take i), ·⟩)
    | none =>
      match Threshold.ofText? cs with
      | some threshold => some ⟨none, threshold⟩
      | none => some ⟨some cs, .upTo .trace⟩

def covers (directive : Directive) (event : Event) : Bool :=
  match directive.target? with
  | some target => target.isPrefixOf event.target.toList
  | none => true

def specificity (directive : Directive) : Nat :=
  match directive.target? with
  | some target => target.length + 1
  | none => 0

end Directive

structure Filter where
  directives : List Directive
deriving DecidableEq, Repr

namespace Filter

def add (filter : Filter) (directive : Directive) : Filter :=
  ⟨filter.directives.filter (·.target? != directive.target?) ++ [directive]⟩

def ofDirectives (directives : List Directive) : Filter := directives.foldl add ⟨[]⟩

def governing? (event : Event) : List Directive → Option Directive
  | [] => none
  | directive :: rest =>
    match governing? event rest with
    | some other =>
      if directive.covers event && other.specificity ≤ directive.specificity then some directive else some other
    | none => if directive.covers event then some directive else none

def shows (filter : Filter) (event : Event) : Bool :=
  match governing? event filter.directives with
  | some directive => directive.threshold.admits event.level
  | none => false

def ofText? (cs : List Char) : Option Filter :=
  let pieces := (Text.pieces ',' cs).filter (!·.isEmpty)
  (pieces.mapM Directive.ofText?).map fun directives =>
    if directives.isEmpty then ⟨[⟨none, .upTo .error⟩]⟩ else ofDirectives directives

def addedPieces (settings : Settings) : List (List Char) :=
  match settings.targetFilter with
  | some text => ((Text.pieces ',' text.toList).map Text.trim).filter (!·.isEmpty)
  | none => []

-- A readable list of directives in the environment takes the place of the level. Further directives
-- are added, as far as they can be read.
def build (settings : Settings) (env : Environment) : Filter :=
  let base := ((env.get? "RUST_LOG").bind fun text => ofText? text.toList).getD
    ⟨[⟨none, .upTo settings.level⟩]⟩
  ((addedPieces settings).filterMap Directive.ofText?).foldl add base

def refusalText (piece : List Char) : String :=
  s!"Warning: Invalid log filter directive: {String.ofList piece}"

def refusals (settings : Settings) : List String :=
  ((addedPieces settings).filter fun piece => (Directive.ofText? piece).isNone).map refusalText

end Filter

end ResourceRoutes.Log
