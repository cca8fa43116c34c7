import ResourceRoutes.CommandLine
import ResourceRoutes.Text.Numeral
set_option autoImplicit false

/- Reading of command lines. Some arguments are given before the name of the command and others after
it. An argument whose value stands in the next word is pending until something else is read. -/
namespace ResourceRoutes

inductive CommandName where
  | gather
  | routes
  | check
deriving DecidableEq, Repr

def CommandName.ofText? : String → Option CommandName
  | "gather" => some .gather
  | "routes" => some .routes
  | "check" => some .check
  | _ => none

inductive Parameter where
  | config
  | jobs
  | input
  | format
  | toStdout
  | output
  | verbose
  | urlPrefix
  | denyWarnings
  | help
  | version
deriving DecidableEq, Repr

def Parameter.takesValue : Parameter → Bool
  | .config | .jobs | .input | .format | .output | .urlPrefix => true
  | _ => false

abbrev Position := Option CommandName

namespace Position

-- The configuration and the number of workers can be given on both sides of the name.
def long? (position : Position) (name : String) : Option Parameter :=
  match name, position with
  | "config", _ => some .config
  | "jobs", _ => some .jobs
  | "help", _ => some .help
  | "version", none => some .version
  | "format", some .gather | "format", some .routes => some .format
  | "stdout", some .gather => some .toStdout
  | "output", some .gather => some .output
  | "verbose", some .gather => some .verbose
  | "prefix", some .routes => some .urlPrefix
  | "deny-warnings", some .check => some .denyWarnings
  | _, _ => none

def short? (position : Position) (letter : Char) : Option Parameter :=
  match letter, position with
  | 'h', _ => some .help
  | 'V', none => some .version
  | 'o', some .gather => some .output
  | 'v', some .gather => some .verbose
  | _, _ => none

end Position

structure Given where
  config? : Option String := none
  jobs? : Option Nat := none
  input? : Option String := none
  format? : Option DocumentFormat := none
  toStdout : Bool := false
  output? : Option String := none
  verbose : Bool := false
  urlPrefix? : Option String := none
  denyWarnings : Bool := false
deriving DecidableEq, Repr

namespace Given

def check (repeated : Bool) : Except UsageFault Unit := if repeated then .error .repeatedArgument else .ok ()

def path (value : String) : Except UsageFault String :=
  if value = "" then .error .invalidValue else .ok value

def require {α : Type} (fault : UsageFault) : Option α → Except UsageFault α
  | some a => .ok a
  | none => .error fault

def setValue (given : Given) (parameter : Parameter) (value : String) : Except UsageFault Given :=
  match parameter with
  | .config => do
    check given.config?.isSome
    return { given with config? := some (← path value) }
  | .jobs => do
    check given.jobs?.isSome
    return { given with jobs? := some (← require .unreadableValue (Text.numeral? value.toList)) }
  | .input => do
    check given.input?.isSome
    return { given with input? := some (← path value) }
  | .format => do
    check given.format?.isSome
    return { given with format? := some (← require .invalidValue (DocumentFormat.ofName? value)) }
  | .output => do
    check given.output?.isSome
    return { given with output? := some (← path value) }
  | .urlPrefix => do
    check given.urlPrefix?.isSome
    return { given with urlPrefix? := some value }
  | _ => .error .unexpectedValue

def setFlag (given : Given) (parameter : Parameter) : Except UsageFault Given :=
  match parameter with
  | .toStdout => do
    check given.toStdout
    return { given with toStdout := true }
  | .verbose => do
    check given.verbose
    return { given with verbose := true }
  | .denyWarnings => do
    check given.denyWarnings
    return { given with denyWarnings := true }
  | .help => .error .help
  | .version => .error .version
  | _ => .error .invalidValue

end Given

structure Pending where
  parameter : Parameter
  value? : Option String
deriving DecidableEq, Repr

structure Progress where
  given : Given := {}
  pending? : Option Pending := none
  hasInput : Bool := false
deriving DecidableEq, Repr

namespace Progress

def awaiting? (progress : Progress) : Option Parameter :=
  match progress.pending? with
  | some ⟨parameter, none⟩ => some parameter
  | _ => none

def settle (progress : Progress) : Except UsageFault Given :=
  match progress.pending? with
  | none => .ok progress.given
  | some ⟨parameter, some value⟩ => progress.given.setValue parameter value
  | some ⟨_, none⟩ => .error .invalidValue

def setFlag (progress : Progress) (parameter : Parameter) : Except UsageFault Progress := do
  let given ← (← progress.settle).setFlag parameter
  return { progress with given, pending? := none }

def setValue (progress : Progress) (parameter : Parameter) (value : String) : Except UsageFault Progress := do
  let given ← (← progress.settle).setValue parameter value
  return { progress with given, pending? := none }

def await (progress : Progress) (parameter : Parameter) (value? : Option String) :
    Except UsageFault Progress := do
  let given ← progress.settle
  return { progress with given, pending? := some ⟨parameter, value?⟩ }

-- After `--name`, or `--name=value`. What is not known is a fault even if a value was missing before it.
def long (position : Position) (progress : Progress) (name : String) (value? : Option String) :
    Except UsageFault Progress :=
  match position.long? name with
  | none => .error .unknownArgument
  | some parameter =>
    if parameter.takesValue then
      match value? with
      | some value => progress.setValue parameter value
      | none => progress.await parameter none
    else
      match value? with
      | some _ => .error .unexpectedValue
      | none => progress.setFlag parameter

-- Letters after a dash. What follows the letter of a parameter with a value is that value, with or
-- without an equals sign in front.
def short (position : Position) (progress : Progress) : List Char → Except UsageFault Progress
  | [] => .ok progress
  | letter :: rest =>
    match position.short? letter with
    | none => .error .unknownArgument
    | some parameter =>
      if parameter.takesValue then
        match rest with
        | [] => progress.await parameter none
        | '=' :: value => progress.setValue parameter (String.ofList value)
        | value => progress.setValue parameter (String.ofList value)
      else do
        let progress ← progress.setFlag parameter
        progress.short position rest

def plain (position : Position) (afterDashes : Bool) (progress : Progress) (word : String) :
    Except UsageFault Progress :=
  match position with
  | none =>
    if afterDashes && (word == "help" || (CommandName.ofText? word).isSome) then .error .unknownArgument
    else .error .invalidCommand
  | some _ =>
    if progress.hasInput then .error .unknownArgument
    else do
      let progress ← progress.await .input (some word)
      return { progress with hasInput := true }

end Progress

inductive Word where
  | dashes
  | long (name : String) (value? : Option String)
  | short (letters : List Char)
  | plain
deriving DecidableEq, Repr

def Word.of (word : String) : Word :=
  match word.toList with
  | ['-', '-'] => .dashes
  | '-' :: '-' :: rest =>
    match rest.dropWhile (· != '=') with
    | [] => .long (String.ofList rest) none
    | _ :: value => .long (String.ofList (rest.takeWhile (· != '='))) (some (String.ofList value))
  | '-' :: c :: rest => .short (c :: rest)
  | _ => .plain

namespace CommandLine

def helpFault : List String → UsageFault
  | [] => .help
  | [word] => if word = "help" ∨ (CommandName.ofText? word).isSome then .help else .invalidCommand
  | _ => .invalidCommand

def scan (position : Position) (progress : Progress) :
    List String → Except UsageFault (Progress × Option (CommandName × List String))
  | [] => .ok (progress, none)
  | word :: rest =>
    let isName := position.isNone && progress.awaiting?.isNone
    match CommandName.ofText? word with
    | some name =>
      if isName then .ok (progress, some (name, rest))
      else
        match progress.awaiting? with
        | some parameter => scan position { progress with pending? := some ⟨parameter, some word⟩ } rest
        | none => do scan position (← progress.plain position false word) rest
    | none =>
      if isName && word == "help" then .error (helpFault rest)
      else
        match Word.of word with
        | .dashes => do
          let progress ← rest.foldlM (Progress.plain position true) progress
          return (progress, none)
        | .long name value? => do scan position (← progress.long position name value?) rest
        | .short letters => do scan position (← progress.short position letters) rest
        | .plain =>
          match progress.awaiting? with
          | some parameter => scan position { progress with pending? := some ⟨parameter, some word⟩ } rest
          | none => do scan position (← progress.plain position false word) rest

def commandOf (name : CommandName) (given : Given) : Except UsageFault Command := do
  let input ← Given.require .missingRequired given.input?
  let format := given.format?.getD .json
  match name with
  | .gather => return .gather input format given.toStdout given.output? given.verbose
  | .routes => return .routes input given.urlPrefix? format
  | .check => return .check input given.denyWarnings

-- Of what is given on both sides of the name the later counts. A fault after the name comes first.
def ofArguments (words : List String) : Except UsageFault CommandLine := do
  match ← scan none {} words with
  | (progress, none) =>
    let given ← progress.settle
    .error (if given = {} then .helpForNothing else .missingCommand)
  | (progress, some (name, rest)) =>
    let (after, _) ← scan (some name) {} rest
    let given ← after.settle
    let command ← commandOf name given
    let before ← progress.settle
    return { config? := given.config? <|> before.config?, jobs? := given.jobs? <|> before.jobs?, command }

end CommandLine

end ResourceRoutes
