set_option autoImplicit false

namespace ResourceRoutes

abbrev Hook (σ : Type) := σ → Bool × σ

-- Runs the hooks in order and then the handler; the first hook that rejects ends the run.
-- The truth value tells whether the handler ran.
def runWithHooks {σ : Type} (hooks : List (Hook σ)) (handler : σ → σ) (context : σ) : Bool × σ :=
  match hooks with
  | [] => (true, handler context)
  | hook :: rest =>
    match hook context with
    | (true, context) => runWithHooks rest handler context
    | (false, context) => (false, context)

end ResourceRoutes
