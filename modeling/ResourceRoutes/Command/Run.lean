import ResourceRoutes.Command.Outcome
import ResourceRoutes.CommandLine
import ResourceRoutes.Registry.Pool
import ResourceRoutes.Report.Record
import ResourceRoutes.Route.Plan.Record
set_option autoImplicit false

namespace ResourceRoutes

structure Gathering where
  input : Input
  reports : List Report
deriving DecidableEq

namespace Gathering

def registry (input : Input) : Registry := Registry.extend {} input.resources

def ofInput (input : Input) (jobs : Nat) : Gathering := ⟨input, (registry input).reportsWith jobs⟩

def events (input : Input) : List Log.Event :=
  Registry.extendEvents {} input.resources ++ (registry input).reportEvents

def render (gathering : Gathering) (format : DocumentFormat) : String :=
  format.render (Report.documents gathering.reports)

def fileText (gathering : Gathering) (format : DocumentFormat) : String := gathering.render format ++ "\n"

def reportLines (report : Report) : List String :=
  [s!"  Struct '{report.structName}'",
   s!"    Handlers   : {report.handlerSummary}",
   s!"    BeforeOne  : {report.hasBeforeOne}",
   s!"    BeforeMany : {report.hasBeforeMany}",
   s!"    BeforeAll  : {report.hasBeforeAll}"] ++
  if report.warnings.isEmpty then []
  else "    Warnings   :" :: report.warnings.map fun warning => s!"      - {warning}"

def summaryLines (gathering : Gathering) : List String :=
  [s!"Module Name   : {gathering.input.moduleName}"]
    ++ gathering.input.resources.map (fun resource => s!"  Struct      : {resource.name}")
    ++ [s!"Resources     : {gathering.reports.length}"]
    ++ gathering.reports.flatMap reportLines

def summary (gathering : Gathering) : String := String.join (gathering.summaryLines.map (· ++ "\n"))

def warningLines (gathering : Gathering) : List String :=
  gathering.reports.flatMap fun report => report.warnings.map fun warning => s!"{report.structName}: {warning}"

def countLine (gathering : Gathering) : String :=
  s!"{gathering.reports.length} resource(s), {warningCount gathering.reports} warning(s)"

end Gathering

namespace Command

def writtenEvent (path : String) : Log.Event where
  level := .info
  target := "restgen::cli::commands"
  message := "wrote gather report"
  fields := [("output", .bare path)]

def told (verbose : Bool) (lines : List String) : List Emission := if verbose then lines.map .note else []

def showReport (gathering : Gathering) (format : DocumentFormat) (verbose : Bool) : List Emission :=
  told verbose gathering.summaryLines ++ [.output (gathering.render format)]
    ++ told verbose ["Output File   : STDOUT"]

def writeReport (gathering : Gathering) (path : String) (verbose : Bool) (written : Except FileFault Unit) : Outcome :=
  match written with
  | .error fault => ⟨told verbose gathering.summaryLines, some (.unwritable path fault)⟩
  | .ok () => {
      emissions := told verbose gathering.summaryLines ++ [.event (writtenEvent path)]
        ++ told verbose [s!"Output File   : {path}"] }

def showRoutes (gathering : Gathering) (urlPrefix : String) (format : DocumentFormat) : Outcome :=
  match planRoutes gathering.reports urlPrefix with
  | .error error => ⟨[], some (.route error)⟩
  | .ok plans => {
      emissions := (planEvents plans).map .event ++ [.output (format.render (ResourcePlan.documents plans))] }

def showWarnings (gathering : Gathering) (path : String) (denyWarnings : Bool) : Outcome where
  emissions := gathering.warningLines.map .output ++ [.note gathering.countLine]
  fault? :=
    if denyWarnings ∧ 0 < warningCount gathering.reports then
      some (.warnings (warningCount gathering.reports) path)
    else none

variable {m : Type → Type} [Monad m]

def onGathering (files : FileAccess m) (config : Config) (gathering : Gathering) : Command → m Outcome
  | .gather input format toStdout output? verbose => do
    if toStdout then return ⟨showReport gathering format verbose, none⟩
    else
      let path := output?.getD (Input.defaultOutput input format)
      return writeReport gathering path verbose (← files.writeText path (gathering.fileText format))
  | .routes _ urlPrefix? format => return showRoutes gathering (urlPrefix?.getD config.urlPrefix) format
  | .check input denyWarnings => return showWarnings gathering input denyWarnings

def perform (files : FileAccess m) (config : Config) (command : Command) : m Outcome := do
  match ← Input.load files config.types command.input with
  | .error fault => return ⟨[], some (.input fault)⟩
  | .ok (input, discovered) =>
    let outcome ← command.onGathering files config (.ofInput input config.jobs)
    return { outcome with emissions := (discovered ++ Gathering.events input).map .event ++ outcome.emissions }

end Command

namespace CommandLine

def logSettings (line : CommandLine) (env : Environment) : Log.Settings :=
  let settings := Log.Settings.ofEnvironment env
  if line.command.isVerbose then settings.verbose else settings

def configured (line : CommandLine) (config : Config) : Config :=
  match line.jobs? with
  | some n => config.withJobs n
  | none => config

variable {m : Type → Type} [Monad m]

def run (files : FileAccess m) (env : Environment) (line : CommandLine) : m Outcome := do
  let settings := line.logSettings env
  let outcome ← match ← Config.load files env line.config? with
    | .error fault => pure ⟨[], some (.config fault)⟩
    | .ok config => line.command.perform files (line.configured config)
  let shown := outcome.filtered (Log.Filter.build settings env)
  return { shown with emissions := (Log.Filter.refusals settings).map .note ++ shown.emissions }

end CommandLine

end ResourceRoutes
