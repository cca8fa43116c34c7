set_option autoImplicit false

namespace ResourceRoutes

structure Environment where
  bindings : List (String × String) := []
deriving DecidableEq, Repr

namespace Environment

def names : List String :=
  ["RESTGEN_URL_PREFIX", "RESTGEN_JOBS", "RESTGEN_LOG_LEVEL", "RESTGEN_LOG_FORMAT",
   "RESTGEN_LOG_TARGET_FILTER", "RUST_LOG"]

def get? (env : Environment) (name : String) : Option String := env.bindings.lookup name

end Environment

end ResourceRoutes
