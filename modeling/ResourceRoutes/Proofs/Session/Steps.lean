import Mathlib.Data.List.DropRight
import ResourceRoutes.Proofs.Registry.Registration
import ResourceRoutes.Proofs.Session.Action
set_option autoImplicit false

/- A step reads and looks first, and only that can fail; then it changes the session and cannot fail any more. -/
namespace ResourceRoutes

namespace Step

def looks : Step → Bool
  | .resources | .view | .roundTrip | .hasHook .. | .handler .. | .chain .. | .plan .. => true
  | _ => false

def registers : Step → Bool
  | .register .. | .extend .. | .discover .. | .build .. => true
  | _ => false

def resets : Step → Bool
  | .reset => true
  | _ => false

def resources? : Step → Option (List Resource)
  | .register name descriptor => do
    let descriptor ← (Session.descriptorOf descriptor).toOption
    return [⟨name, descriptor⟩]
  | .extend given => (Resource.readAll given).toOption
  | .discover source types? => do
    let types ← (Session.typeNamesOf types?).toOption
    Source.discover? types source
  | .build name members => do
    let descriptor ← (Session.builtOf members).toOption
    return [⟨name, descriptor⟩]
  | _ => none

end Step

namespace Session

open Session.Action

theorem attempt_looks (step : Step) (looks : step.looks = true) : (attempt step).Looks := by
  cases step with
  | resources | view | roundTrip => exact keeps_bind looks_get fun _ => looks_pure _
  | hasHook index hook =>
    exact keeps_bind (looks_report index) fun _ => keeps_bind (looks_resolve _) fun _ => looks_pure _
  | handler index name => exact keeps_bind (looks_report index) fun _ => looks_pure _
  | chain index handler =>
    exact keeps_bind (looks_report index) fun _ => keeps_bind (looks_resolve _) fun _ => looks_pure _
  | plan urlPrefix => exact keeps_bind looks_get fun _ => keeps_bind (looks_resolve _) fun _ => looks_pure _
  | _ => cases looks

theorem attempt_atomic (step : Step) : (attempt step).Atomic := by
  cases step with
  | reset => exact ((sure_set {}).bind fun _ => sure_pure _).atomic
  | register name descriptor => exact (looks_read _).then fun _ => (sure_register _).atomic
  | extend resources => exact (looks_read _).then fun _ => (sure_register _).atomic
  | discover source types? =>
    exact (looks_read _).then fun _ => (looks_expect _ _).then fun _ => (sure_register _).atomic
  | build name members => exact (looks_read _).then fun _ => (sure_register _).atomic
  | inspect jobs => exact looks_get.then fun _ => ((sure_keep _).bind fun _ => sure_pure _).atomic
  | load format text => exact (looks_expect _ _).then fun _ => ((sure_keep _).bind fun _ => sure_pure _).atomic
  | setHook index hook present =>
    exact (looks_report index).then fun _ => (looks_resolve _).then fun _ =>
      ((sure_replace index _).bind fun _ => sure_pure _).atomic
  | pushHandler index name params =>
    exact (looks_report index).then fun _ => ((sure_replace index _).bind fun _ => sure_pure _).atomic
  | pushReport name => exact looks_get.then fun _ => ((sure_keep _).bind fun _ => sure_pure _).atomic
  | resources | view | roundTrip | hasHook | handler | chain | plan => exact (attempt_looks _ rfl).atomic

theorem attempt_keeps_registry (step : Step) (registers : step.registers = false) (resets : step.resets = false) :
    (attempt step).Keeps (·.registry) := by
  cases step with
  | reset => cases resets
  | register | extend | discover | build => cases registers
  | inspect jobs =>
    exact keeps_bind looks_get.keeps fun _ => keeps_bind (keep_keeps _) fun _ => (looks_pure _).keeps
  | load format text =>
    exact keeps_bind (looks_expect _ _).keeps fun _ => keeps_bind (keep_keeps _) fun _ => (looks_pure _).keeps
  | setHook index hook present =>
    exact keeps_bind (looks_report index).keeps fun _ => keeps_bind (looks_resolve _).keeps fun _ =>
      keeps_bind (replace_keeps index _) fun _ => (looks_pure _).keeps
  | pushHandler index name params =>
    exact keeps_bind (looks_report index).keeps fun _ =>
      keeps_bind (replace_keeps index _) fun _ => (looks_pure _).keeps
  | pushReport name =>
    exact keeps_bind looks_get.keeps fun _ => keeps_bind (keep_keeps _) fun _ => (looks_pure _).keeps
  | resources | view | roundTrip | hasHook | handler | chain | plan => exact (attempt_looks _ rfl).keeps

theorem attempt_registers (step : Step) (registers : step.registers = true) :
    (attempt step).Registers step.resources? := by
  cases step with
  | register name descriptor => exact registers_read _ fun descriptor => registers_all [⟨name, descriptor⟩]
  | extend given =>
    have whole := registers_read (Resource.readAll given) fun resources => registers_all resources
    rwa [Option.bind_fun_some] at whole
  | discover source types? =>
    refine registers_read _ fun types => ?_
    have whole := registers_expect .invalidSource (Source.discover? types source) fun resources =>
      registers_all resources
    rwa [Option.bind_fun_some] at whole
  | build name members => exact registers_read _ fun descriptor => registers_all [⟨name, descriptor⟩]
  | _ => cases registers

theorem step_left (session : Session) (step : Step) : (session.step step).1 = (attempt step).left session := by
  unfold Session.step left
  cases attempt step session <;> rfl

theorem failed_step (session : Session) (step : Step) (fault : StepFault)
    (failed : (session.step step).2 = .error fault) : (session.step step).1 = session := by
  unfold Session.step at failed ⊢
  cases ended : attempt step session with
  | ok answer next =>
    rw [ended] at failed
    cases failed
  | error first next => exact attempt_atomic step session first next ended

theorem looking_step (session : Session) (step : Step) (looks : step.looks = true) :
    (session.step step).1 = session := by
  rw [step_left]
  exact attempt_looks step looks session

theorem registering_step (session : Session) (step : Step) (registers : step.registers = true) :
    match step.resources? with
    | some resources =>
      session.step step = ({ session with registry := session.registry.extend resources },
        .ok (.size (session.registry.extend resources).size))
    | none => ∃ fault, session.step step = (session, .error fault) := by
  have attempted := attempt_registers step registers session
  unfold Session.step
  cases known : step.resources? with
  | some resources =>
    rw [known] at attempted
    rw [attempted]
    rfl
  | none =>
    rw [known] at attempted
    obtain ⟨fault, failed⟩ := attempted
    exact ⟨fault, by rw [failed]⟩

def after (session : Session) (steps : List Step) : Session :=
  steps.foldl (fun session step => (session.step step).1) session

theorem run_length (session : Session) (steps : List Step) : (session.run steps).length = steps.length := by
  induction steps generalizing session with
  | nil => rfl
  | cons step rest ih => exact congrArg (· + 1) (ih (session.step step).1)

theorem run_concat (session : Session) (steps : List Step) (last : Step) :
    session.run (steps ++ [last]) = session.run steps ++ [((session.after steps).step last).2] := by
  induction steps generalizing session with
  | nil => rfl
  | cons step rest ih => exact congrArg ((session.step step).2 :: ·) (ih (session.step step).1)

def registeredBy (step : Step) : Except StepFault StepAnswer → List Resource
  | .ok _ => step.resources?.getD []
  | .error _ => []

def registered (answered : List (Step × Except StepFault StepAnswer)) : List Resource :=
  (answered.rtakeWhile fun entry => !entry.1.resets).flatMap fun entry => registeredBy entry.1 entry.2

theorem registered_concat (answered : List (Step × Except StepFault StepAnswer)) (step : Step)
    (answer : Except StepFault StepAnswer) :
    registered (answered ++ [(step, answer)]) =
      if step.resets then [] else registered answered ++ registeredBy step answer := by
  unfold registered
  rw [List.rtakeWhile_concat]
  cases step.resets <;> simp

theorem nothing_registered (step : Step) (answer : Except StepFault StepAnswer) (registers : step.registers = false) :
    registeredBy step answer = [] := by
  have unnamed : step.resources? = none := by
    cases step with
    | register | extend | discover | build => cases registers
    | _ => rfl
  cases answer with
  | ok answer => simp [registeredBy, unnamed]
  | error fault => rfl

theorem registering_step_registry (session : Session) (step : Step) (registers : step.registers = true) :
    (session.step step).1.registry.resources =
      session.registry.resources ++ registeredBy step (session.step step).2 := by
  have stepped := registering_step session step registers
  cases known : step.resources? with
  | some resources =>
    rw [known] at stepped
    simp [stepped, registeredBy, known, Registry.extend_resources]
  | none =>
    rw [known] at stepped
    obtain ⟨fault, failed⟩ := stepped
    simp [failed, registeredBy]

theorem step_registry (session : Session) (step : Step) :
    (session.step step).1.registry.resources =
      if step.resets then [] else session.registry.resources ++ registeredBy step (session.step step).2 := by
  cases resets : step.resets with
  | true =>
    cases step with
    | reset => rfl
    | _ => cases resets
  | false =>
    cases registers : step.registers with
    | true => exact registering_step_registry session step registers
    | false =>
      have kept : ((attempt step).left session).registry = session.registry :=
        attempt_keeps_registry step registers resets session
      rw [step_left, kept, nothing_registered step _ registers, if_neg Bool.false_ne_true, List.append_nil]

theorem run_registry (steps : List Step) :
    (after {} steps).registry.resources = registered (steps.zip (run {} steps)) := by
  -- from the last step backwards, as a reset forgets the steps in front of it
  induction steps using List.reverseRecOn with
  | nil => rfl
  | append_singleton steps last ih =>
    have stepped : after {} (steps ++ [last]) = ((after {} steps).step last).1 := by
      simp [after, List.foldl_append]
    rw [stepped, step_registry, run_concat, List.zip_append (run_length {} steps).symm, List.zip_cons_cons,
      List.zip_nil_left, registered_concat, ih]

theorem steps_change_all_or_nothing :
    (∀ (session : Session) (step : Step) (fault : StepFault), (session.step step).2 = .error fault →
      (session.step step).1 = session) ∧
      (∀ (session : Session) (step : Step), step.looks = true → (session.step step).1 = session) ∧
      (∀ (session : Session) (step : Step), step.registers = true →
        match step.resources? with
        | some resources =>
          session.step step = ({ session with registry := session.registry.extend resources },
            .ok (.size (session.registry.extend resources).size))
        | none => ∃ fault, session.step step = (session, .error fault)) ∧
      ∀ steps : List Step, (after {} steps).registry.resources = registered (steps.zip (run {} steps)) :=
  ⟨failed_step, looking_step, registering_step, run_registry⟩

def listed (names : List String) : Json := .array (names.map fun name => .object [("name".toList, .string name.toList)])

def unreadableThird : Step :=
  .extend (.array [.object [("name".toList, .string ['B'])], .object [("name".toList, .string ['C'])], .number ['5']])

def interruptedRun : List Step :=
  [.extend (listed ["Z"]), .reset, .register "A" (.object []), unreadableThird, .load .json "[", .extend (listed ["B"])]

theorem unreadable_third_registers_none :
    (step ⟨⟨[⟨"A", .empty⟩]⟩, [{ structName := "R" }]⟩ unreadableThird).2 = .error (.unreadable .malformed) ∧
      (step ⟨⟨[⟨"A", .empty⟩]⟩, [{ structName := "R" }]⟩ unreadableThird).1 =
        ⟨⟨[⟨"A", .empty⟩]⟩, [{ structName := "R" }]⟩ ∧
      (step ⟨⟨[⟨"A", .empty⟩]⟩, [{ structName := "R" }]⟩ (.chain 0 "GetOne")).1 =
        ⟨⟨[⟨"A", .empty⟩]⟩, [{ structName := "R" }]⟩ ∧
      (step {} (.extend (listed ["B", "B"]))).1.registry.resources = [⟨"B", .empty⟩, ⟨"B", .empty⟩] ∧
      (after {} interruptedRun).registry.resources = [⟨"A", .empty⟩, ⟨"B", .empty⟩] := by
  obtain ⟨failed_step, looking_step, registering_step, run_registry⟩ := steps_change_all_or_nothing
  have failed : (step ⟨⟨[⟨"A", .empty⟩]⟩, [{ structName := "R" }]⟩ unreadableThird).2 =
      .error (.unreadable .malformed) := by rfl
  have registered := registering_step {} (.extend (listed ["B", "B"])) rfl
  refine ⟨failed, failed_step _ _ _ failed, looking_step _ _ rfl, ?_, (run_registry interruptedRun).trans (by rfl)⟩
  have known : (Step.extend (listed ["B", "B"])).resources? = some [⟨"B", .empty⟩, ⟨"B", .empty⟩] := by rfl
  rw [known] at registered
  rw [registered]
  rfl

end Session

end ResourceRoutes
