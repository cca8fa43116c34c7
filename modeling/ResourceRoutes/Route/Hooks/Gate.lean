import ResourceRoutes.Route.Hooks
set_option autoImplicit false

/- Hooks that leave a trace and count, to watch a chain of them at work. -/
namespace ResourceRoutes

structure Tally where
  trace : List String := []
  count : Int := 0
deriving DecidableEq, Repr

structure Gate where
  name : String
  accepts : Bool := true
  add : Int := 0
  max? : Option Int := none
deriving DecidableEq, Repr

def Tally.enter (tally : Tally) (name : String) : Tally := { tally with trace := tally.trace ++ [name] }

def Gate.hook (gate : Gate) : Hook Tally := fun tally =>
  let count := tally.count + gate.add
  (gate.accepts && gate.max?.all (count ≤ ·), { tally.enter gate.name with count })

structure Run where
  ran : Bool
  trace : List String
  count : Int
deriving DecidableEq, Repr

def runOnce (gates : List Gate) (handler : String) (count : Int) : Run :=
  let (ran, tally) := runWithHooks (gates.map Gate.hook) (·.enter handler) { count }
  ⟨ran, tally.trace, tally.count⟩

def runRepeatedly (gates : List Gate) (handler : String) : Nat → Int → List Run
  | 0, _ => []
  | runs + 1, count =>
    let run := runOnce gates handler count
    run :: runRepeatedly gates handler runs run.count

end ResourceRoutes
