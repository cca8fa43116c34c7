import ResourceRoutes.Json.Datum
import ResourceRoutes.Registry.Pool
import ResourceRoutes.Report.Text
import ResourceRoutes.Resource.Record
import ResourceRoutes.Route.Plan
import ResourceRoutes.Source.Discovery
set_option autoImplicit false

namespace ResourceRoutes

structure Session where
  registry : Registry := {}
  reports : List Report := []
deriving DecidableEq

inductive MemberSpec where
  | signature (value : Json)
  | callable (value : Json)
  | notCallable (typeName : String)
  | handler (params : List ParamKind)
  | hook (params : List ParamKind)
  | returning (params : List ParamKind) (returns : List String)
deriving Repr

inductive Step where
  | reset
  | register (name : String) (descriptor : Json)
  | extend (resources : Json)
  | discover (source : String) (types? : Option Json)
  | build (name : String) (members : List (String × MemberSpec))
  | resources
  | inspect (jobs : Nat)
  | view
  | load (format : DocumentFormat) (text : String)
  | roundTrip
  | setHook (index : Nat) (hook : String) (present : Bool)
  | hasHook (index : Nat) (hook : String)
  | handler (index : Nat) (name : String)
  | pushHandler (index : Nat) (name : String) (params : Nat)
  | chain (index : Nat) (handler : String)
  | pushReport (name : String)
  | plan (urlPrefix : String)
deriving Repr

inductive StepAnswer where
  | size (n : Nat)
  | resources (resources : List Resource)
  | reports (reports : List Report)
  | view (reports : List Report)
  | roundTrip (json yaml : Bool)
  | report (report : Report)
  | flag (value : Bool)
  | handler (record? : Option HandlerRecord)
  | summary (text : String)
  | hooks (hooks : List HookKind)
  | count (n : Nat)
  | plans (plans : List ResourcePlan)
deriving DecidableEq

inductive StepFault where
  | unreadable (fault : ReadFault)
  | invalidSource
  | invalidReports (format : DocumentFormat)
  | route (error : RouteError)
  | noSuchReport
deriving DecidableEq, Repr

namespace MemberSpec

def datum (value : Json) : Except ReadFault Datum := ReadFault.require (value.datum? Json.depthLimit)

def describe : MemberSpec → Except ReadFault Callable
  | .signature value => do return .function (← Signature.read .strict (← datum value))
  | .callable value => do Callable.read .strict (← datum value)
  | .notCallable typeName => .ok (.value typeName)
  | .handler params => .ok (.function ⟨params, []⟩)
  | .hook params => .ok (.function ⟨params, [.bool]⟩)
  | .returning params returns => .ok (.function ⟨params, returns.map .other⟩)

end MemberSpec

namespace Session

-- What a step does to the session up to a fault stays done.
abbrev Action := EStateM StepFault Session

namespace Action

def read {α : Type} : Except ReadFault α → Action α
  | .ok a => return a
  | .error fault => throw (.unreadable fault)

def resolve {α : Type} : Except RouteError α → Action α
  | .ok a => return a
  | .error error => throw (.route error)

def expect {α : Type} (fault : StepFault) : Option α → Action α
  | some a => return a
  | none => throw fault

def report (index : Nat) : Action Report := do expect .noSuchReport (← get).reports[index]?

def register (resources : List Resource) : Action StepAnswer := do
  modify fun session => { session with registry := session.registry.extend resources }
  return .size (← get).registry.size

def keep (reports : List Report) : Action Unit := modify fun session => { session with reports }

def replace (index : Nat) (changed : Report) : Action Unit :=
  modify fun session => { session with reports := session.reports.set index changed }

end Action

def descriptorOf (value : Json) : Except ReadFault Descriptor := do
  Descriptor.read .strict (← MemberSpec.datum value)

def builtOf (members : List (String × MemberSpec)) : Except ReadFault Descriptor := do
  let described ← members.mapM fun member => do return (member.1, ← member.2.describe)
  return Descriptor.ofList described

def typeNamesOf (types? : Option Json) : Except ReadFault Source.TypeNames :=
  match types? with
  | some types => Source.TypeNames.read types
  | none => .ok {}

open Session.Action in
def attempt : Step → Action StepAnswer
  | .reset => do
    set ({} : Session)
    return .size 0
  | .register name descriptor => do
    let descriptor ← read (descriptorOf descriptor)
    register [⟨name, descriptor⟩]
  | .extend resources => do
    let resources ← read (Resource.readAll resources)
    register resources
  | .discover source types? => do
    let types ← read (typeNamesOf types?)
    let resources ← expect .invalidSource (Source.discover? types source)
    register resources
  | .build name members => do
    let descriptor ← read (builtOf members)
    register [⟨name, descriptor⟩]
  | .resources => return .resources (← get).registry.resources
  | .inspect jobs => do
    let reports := (← get).registry.reportsWith jobs
    keep reports
    return .reports reports
  | .view => return .view (← get).reports
  | .load format text => do
    let reports ← expect (.invalidReports format) (Report.ofText? format text)
    keep reports
    return .reports reports
  | .roundTrip => do
    let reports := (← get).reports
    return .roundTrip (Report.survives .json reports) (Report.survives .yaml reports)
  | .setHook index hook present => do
    let report ← report index
    let hook ← resolve (HookKind.ofName hook)
    let changed := report.setHook hook present
    replace index changed
    return .report changed
  | .hasHook index hook => do
    let report ← report index
    let hook ← resolve (HookKind.ofName hook)
    return .flag (report.hasHook hook)
  | .handler index name => do
    let report ← report index
    return .handler (report.handler? name)
  | .pushHandler index name params => do
    let report ← report index
    let changed := report.pushHandler ⟨name, params⟩
    replace index changed
    return .summary changed.handlerSummary
  | .chain index handler => do
    let report ← report index
    let kind ← resolve (HandlerKind.ofName handler)
    return .hooks (kind.hookChain report)
  | .pushReport name => do
    let reports := (← get).reports ++ [{ structName := name }]
    keep reports
    return .count reports.length
  | .plan urlPrefix => do
    let plans ← resolve (planRoutes (← get).reports urlPrefix)
    return .plans plans

def step (session : Session) (step : Step) : Session × Except StepFault StepAnswer :=
  match attempt step session with
  | .ok answer next => (next, .ok answer)
  | .error fault next => (next, .error fault)

def run (session : Session) : List Step → List (Except StepFault StepAnswer)
  | [] => []
  | step :: rest =>
    let (next, answer) := session.step step
    answer :: next.run rest

end Session

end ResourceRoutes
