import ResourceRoutes.Environment
import ResourceRoutes.Route.Plan
import ResourceRoutes.Source.TypeNames
import ResourceRoutes.Text.Blank
import ResourceRoutes.Text.Numeral
import ResourceRoutes.Yaml.Readable
set_option autoImplicit false

/- Settings of a run. What a file says gives way to the environment, and both to the command line. -/
namespace ResourceRoutes

structure Config where
  urlPrefix : String := defaultUrlPrefix
  types : Source.TypeNames := {}
  jobs : Nat := 1
  jobs_pos : 0 < jobs := by exact Nat.one_pos
deriving DecidableEq

namespace Config

def withJobs (config : Config) (n : Nat) : Config :=
  { config with jobs := max n 1, jobs_pos := Nat.lt_of_lt_of_le Nat.one_pos (Nat.le_max_right n 1) }

def fieldNames : List String := ["url_prefix", "types", "jobs"]

variable {ν : Type} [Readable ν]

def read (v : ν) : Except ReadFault Config := do
  let fields ← Readable.fields fieldNames v
  let defaults : Config := {}
  let urlPrefix ← fields.optional "url_prefix" defaults.urlPrefix Readable.text
  let types ← fields.optional "types" defaults.types Source.TypeNames.read
  let jobs ← fields.optional "jobs" defaults.jobs Readable.nat
  fields.checkSound
  return withJobs { urlPrefix, types } jobs

def ofYaml? (text : String) : Option Config :=
  (Yaml.read? text.toList).bind fun tree => (read (Yaml.View.ofTree tree)).toOption

def jobsOf? (value : String) : Option Nat := Text.numeral? (Text.trim value.toList)

def prefixVariable : String := "RESTGEN_URL_PREFIX"

def jobsVariable : String := "RESTGEN_JOBS"

def withEnvironment (config : Config) (env : Environment) : Config :=
  let config := match env.get? prefixVariable with
    | some urlPrefix => { config with urlPrefix }
    | none => config
  match env.get? jobsVariable >>= jobsOf? with
  | some n => config.withJobs n
  | none => config

end Config

end ResourceRoutes
