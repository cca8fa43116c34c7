import ResourceRoutes.Document.Format
set_option autoImplicit false

namespace ResourceRoutes

inductive Command where
  | gather (input : String) (format : DocumentFormat) (toStdout : Bool) (output? : Option String) (verbose : Bool)
  | routes (input : String) (urlPrefix? : Option String) (format : DocumentFormat)
  | check (input : String) (denyWarnings : Bool)
deriving DecidableEq, Repr

namespace Command

def input : Command → String
  | .gather input .. | .routes input .. | .check input .. => input

def isVerbose : Command → Bool
  | .gather _ _ _ _ verbose => verbose
  | _ => false

end Command

structure CommandLine where
  config? : Option String
  jobs? : Option Nat
  command : Command
deriving DecidableEq, Repr

inductive UsageFault where
  | missingRequired
  | unknownArgument
  | invalidValue
  | unreadableValue
  | invalidCommand
  | missingCommand
  | repeatedArgument
  | unexpectedValue
  | help
  | helpForNothing
  | version
deriving DecidableEq, Repr

def UsageFault.exitCode : UsageFault → UInt8
  | .help | .version => 0
  | _ => 2

def UsageFault.message : UsageFault → String
  | .missingRequired => "error: no input is given"
  | .unknownArgument => "error: unexpected argument"
  | .invalidValue => "error: missing or invalid value"
  | .unreadableValue => "error: a number is expected"
  | .invalidCommand => "error: unrecognized command"
  | .missingCommand => "error: no command is given"
  | .repeatedArgument => "error: an argument is given more than once"
  | .unexpectedValue => "error: a value is given where none is taken"
  | .help | .helpForNothing => "\n".intercalate [
      "Usage: restgen [--config FILE] [--jobs N] COMMAND",
      "  gather INPUT [--format json|yaml] [--stdout] [-o FILE] [-v]",
      "  routes INPUT [--prefix URL] [--format json|yaml]",
      "  check INPUT [--deny-warnings]"]
  | .version => "restgen 0.1.0-alpha.1"

end ResourceRoutes
