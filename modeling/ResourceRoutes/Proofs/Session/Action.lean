import ResourceRoutes.Session
set_option autoImplicit false

/- Actions on a session by what they may do. Each such property is kept by `bind` under a condition of its own. -/
namespace ResourceRoutes.Session

namespace Action

variable {α β γ : Type}

def left (action : Action α) (session : Session) : Session :=
  match action session with
  | .ok _ next => next
  | .error _ next => next

theorem bind_ok (action : Action α) (rest : α → Action β) (session next : Session) (a : α)
    (well : action session = .ok a next) : (action >>= rest) session = rest a next := by
  show EStateM.bind action rest session = rest a next
  rw [EStateM.bind, well]

theorem bind_error (action : Action α) (rest : α → Action β) (session next : Session) (fault : StepFault)
    (failed : action session = .error fault next) : (action >>= rest) session = .error fault next := by
  show EStateM.bind action rest session = .error fault next
  rw [EStateM.bind, failed]

def Keeps (part : Session → γ) (action : Action α) : Prop := ∀ session, part (action.left session) = part session

def Looks (action : Action α) : Prop := action.Keeps id

variable {part : Session → γ}

theorem Looks.keeps {action : Action α} (looks : action.Looks) : action.Keeps part := by
  intro session
  rw [show action.left session = session from looks session]

theorem keeps_bind {action : Action α} {rest : α → Action β} (first : action.Keeps part)
    (others : ∀ a, (rest a).Keeps part) : (action >>= rest).Keeps part := by
  intro session
  have kept := first session
  unfold left at kept ⊢
  cases ended : action session with
  | ok a next =>
    rw [ended] at kept
    rw [bind_ok action rest session next a ended]
    exact (others a next).trans kept
  | error fault next =>
    rw [ended] at kept
    rw [bind_error action rest session next fault ended]
    exact kept

theorem looks_pure (a : α) : Looks (pure a) := fun _ => rfl

theorem looks_throw (fault : StepFault) : Looks (throw fault : Action α) := fun _ => rfl

theorem looks_get : Looks (get : Action Session) := fun _ => rfl

theorem looks_read (outcome : Except ReadFault α) : Looks (read outcome) := by
  cases outcome with
  | ok a => exact looks_pure a
  | error fault => exact looks_throw _

theorem looks_resolve (outcome : Except RouteError α) : Looks (resolve outcome) := by
  cases outcome with
  | ok a => exact looks_pure a
  | error error => exact looks_throw _

theorem looks_expect (fault : StepFault) (found : Option α) : Looks (expect fault found) := by
  cases found with
  | some a => exact looks_pure a
  | none => exact looks_throw _

theorem looks_report (index : Nat) : Looks (report index) := keeps_bind looks_get fun _ => looks_expect _ _

theorem keep_keeps (reports : List Report) : (keep reports).Keeps (·.registry) := fun _ => rfl

theorem replace_keeps (index : Nat) (changed : Report) : (replace index changed).Keeps (·.registry) := fun _ => rfl

def Sure (action : Action α) : Prop := ∀ session, ∃ a next, action session = .ok a next

def Atomic (action : Action α) : Prop :=
  ∀ session fault next, action session = .error fault next → next = session

theorem Sure.bind {action : Action α} {rest : α → Action β} (first : action.Sure) (others : ∀ a, (rest a).Sure) :
    (action >>= rest).Sure := by
  intro session
  obtain ⟨a, next, ended⟩ := first session
  rw [bind_ok action rest session next a ended]
  exact others a next

theorem sure_pure (a : α) : Sure (pure a) := fun session => ⟨a, session, rfl⟩

theorem sure_set (session : Session) : Sure (set session) := fun _ => ⟨⟨⟩, session, rfl⟩

theorem sure_register (resources : List Resource) : Sure (register resources) := fun _ => ⟨_, _, rfl⟩

theorem sure_keep (reports : List Report) : Sure (keep reports) := fun _ => ⟨⟨⟩, _, rfl⟩

theorem sure_replace (index : Nat) (changed : Report) : Sure (replace index changed) := fun _ => ⟨⟨⟩, _, rfl⟩

theorem Sure.atomic {action : Action α} (sure : action.Sure) : action.Atomic := by
  intro session fault next failed
  obtain ⟨a, other, well⟩ := sure session
  rw [well] at failed
  cases failed

theorem Looks.atomic {action : Action α} (looks : action.Looks) : action.Atomic := by
  intro session fault next failed
  have same : action.left session = session := looks session
  rwa [left, failed] at same

theorem Looks.then {action : Action α} {rest : α → Action β} (looks : action.Looks)
    (others : ∀ a, (rest a).Atomic) : (action >>= rest).Atomic := by
  intro session fault next failed
  have same : action.left session = session := looks session
  unfold left at same
  cases ended : action session with
  | ok a between =>
    rw [ended] at same
    obtain rfl : between = session := same
    rw [bind_ok action rest _ _ a ended] at failed
    exact others a _ fault next failed
  | error first between =>
    rw [ended] at same
    rw [bind_error action rest session between first ended] at failed
    cases failed
    exact same

def Registers (resources? : Option (List Resource)) (action : Action StepAnswer) : Prop :=
  ∀ session, match resources? with
    | some resources => action session = register resources session
    | none => ∃ fault, action session = .error fault session

theorem registers_all (resources : List Resource) : (register resources).Registers (some resources) := fun _ => rfl

theorem registers_read (outcome : Except ReadFault α) {resources? : α → Option (List Resource)}
    {rest : α → Action StepAnswer} (others : ∀ a, (rest a).Registers (resources? a)) :
    (read outcome >>= rest).Registers (outcome.toOption.bind resources?) := by
  cases outcome with
  | ok a => exact others a
  | error fault => exact fun _ => ⟨.unreadable fault, rfl⟩

theorem registers_expect (fault : StepFault) (found : Option α) {resources? : α → Option (List Resource)}
    {rest : α → Action StepAnswer} (others : ∀ a, (rest a).Registers (resources? a)) :
    (expect fault found >>= rest).Registers (found.bind resources?) := by
  cases found with
  | some a => exact others a
  | none => exact fun _ => ⟨fault, rfl⟩

end Action

end ResourceRoutes.Session
