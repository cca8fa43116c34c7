import ResourceRoutes.Config.File
import ResourceRoutes.Input
import ResourceRoutes.Log.Filter
import ResourceRoutes.Log.Line
import ResourceRoutes.Text.Pieces
set_option autoImplicit false

namespace ResourceRoutes

inductive RunFault where
  | config (fault : ConfigFault)
  | input (fault : InputFault)
  | unwritable (path : String) (fault : FileFault)
  | route (error : RouteError)
  | warnings (count : Nat) (path : String)
deriving DecidableEq, Repr

def RunFault.message : RunFault → String
  | .config fault => fault.message
  | .input fault => fault.message
  | .unwritable path fault => s!"Failed to write {path}: {fault.message}"
  | .route error => error.message
  | .warnings count path => s!"{count} warning(s) found in {path}"

inductive Emission where
  | output (line : String)
  | note (line : String)
  | event (event : Log.Event)
deriving DecidableEq, Repr

structure Outcome where
  emissions : List Emission
  fault? : Option RunFault := none
deriving DecidableEq, Repr

namespace Outcome

def outputLines (outcome : Outcome) : List String :=
  outcome.emissions.filterMap fun emission => match emission with
    | .output line => some line
    | _ => none

def notes (outcome : Outcome) : List String :=
  outcome.emissions.filterMap fun emission => match emission with
    | .note line => some line
    | _ => none

def events (outcome : Outcome) : List Log.Event :=
  outcome.emissions.filterMap fun emission => match emission with
    | .event event => some event
    | _ => none

def filtered (outcome : Outcome) (filter : Log.Filter) : Outcome :=
  { outcome with emissions := outcome.emissions.filter fun emission => match emission with
    | .event event => filter.shows event
    | _ => true }

def faultLine (fault : RunFault) : String := s!"error: {fault.message}"

def noteLines (outcome : Outcome) : List String :=
  (outcome.notes ++ outcome.fault?.toList.map faultLine).flatMap fun note =>
    (Text.pieces '\n' note.toList).map String.ofList

def output (outcome : Outcome) : String := String.join (outcome.outputLines.map (· ++ "\n"))

def exitCode (outcome : Outcome) : UInt8 := if outcome.fault?.isSome then 1 else 0

end Outcome

end ResourceRoutes
