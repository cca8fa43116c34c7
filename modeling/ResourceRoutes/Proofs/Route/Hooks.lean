import ResourceRoutes.Route.Hooks
set_option autoImplicit false

/- The context is watched: beside its own state it carries a note of every hook and handler executed on it. -/
namespace ResourceRoutes

variable {σ : Type}

theorem run_accepting (hook : Hook σ) (rest : List (Hook σ)) (handler : σ → σ) (context : σ)
    (accepts : (hook context).1 = true) :
    runWithHooks (hook :: rest) handler context = runWithHooks rest handler (hook context).2 := by
  have answer : hook context = (true, (hook context).2) := Prod.ext accepts rfl
  rw [runWithHooks, answer]

theorem run_rejecting (hook : Hook σ) (rest : List (Hook σ)) (handler : σ → σ) (context : σ)
    (rejects : (hook context).1 = false) :
    runWithHooks (hook :: rest) handler context = (false, (hook context).2) := by
  have answer : hook context = (false, (hook context).2) := Prod.ext rejects rfl
  rw [runWithHooks, answer]

def reached (hooks : List (Hook σ)) (context : σ) : σ :=
  hooks.foldl (fun context hook => (hook context).2) context

def AllAccept (hooks : List (Hook σ)) (context : σ) : Prop :=
  ∀ before hook after, hooks = before ++ hook :: after → (hook (reached before context)).1 = true

inductive Course (hooks : List (Hook σ)) (context : σ) : List (Hook σ) → Bool → Prop where
  | through (accepted : AllAccept hooks context) : Course hooks context hooks true
  | stopped (before : List (Hook σ)) (hook : Hook σ) (after : List (Hook σ))
      (listed : hooks = before ++ hook :: after) (accepted : AllAccept before context)
      (rejected : (hook (reached before context)).1 = false) : Course hooks context (before ++ [hook]) false

theorem all_accept_nil (context : σ) : AllAccept [] context := by
  intro before hook after listed
  cases before <;> cases listed

theorem all_accept_cons (hook : Hook σ) (rest : List (Hook σ)) (context : σ) (accepts : (hook context).1 = true)
    (accepted : AllAccept rest (hook context).2) : AllAccept (hook :: rest) context := by
  intro before other after listed
  cases before with
  | nil =>
    cases listed
    exact accepts
  | cons first before =>
    obtain ⟨rfl, listed_rest⟩ := List.cons.inj listed
    exact accepted before other after listed_rest

theorem course_cons (hook : Hook σ) (rest executed : List (Hook σ)) (context : σ) (ran : Bool)
    (accepts : (hook context).1 = true) (course : Course rest (hook context).2 executed ran) :
    Course (hook :: rest) context (hook :: executed) ran := by
  cases course with
  | through accepted => exact .through (all_accept_cons hook rest context accepts accepted)
  | stopped before other after listed accepted rejected =>
    exact .stopped (hook :: before) other after (by rw [listed]; rfl)
      (all_accept_cons hook before context accepts accepted) rejected

-- Hooks are told apart by their places in the list, so that one hook may stand in it several times.
inductive Execution where
  | hook (index : Nat)
  | handler
deriving DecidableEq, Repr

structure Watched (σ : Type) where
  context : σ
  trace : List Execution

def watchHook (hook : Hook σ) (index : Nat) : Hook (Watched σ) := fun watched =>
  ((hook watched.context).1, ⟨(hook watched.context).2, watched.trace ++ [.hook index]⟩)

def watchHooks (hooks : List (Hook σ)) (first : Nat) : List (Hook (Watched σ)) :=
  (hooks.zipIdx first).map fun (hook, index) => watchHook hook index

def watchHandler (handler : σ → σ) (watched : Watched σ) : Watched σ :=
  ⟨handler watched.context, watched.trace ++ [.handler]⟩

def contextAfter (handler : σ → σ) (executed : List (Hook σ)) (ran : Bool) (context : σ) : σ :=
  if ran then handler (reached executed context) else reached executed context

def executions (first count : Nat) (ran : Bool) : List Execution :=
  (List.range' first count).map .hook ++ if ran then [.handler] else []

def Watched.after (watched : Watched σ) (handler : σ → σ) (first : Nat) (executed : List (Hook σ)) (ran : Bool) :
    Watched σ :=
  ⟨contextAfter handler executed ran watched.context, watched.trace ++ executions first executed.length ran⟩

theorem watched_run (hooks : List (Hook σ)) (handler : σ → σ) (first : Nat) (watched : Watched σ) :
    ∃ executed ran, Course hooks watched.context executed ran ∧
      runWithHooks (watchHooks hooks first) (watchHandler handler) watched =
        (ran, watched.after handler first executed ran) := by
  -- `first` is the place of the first hook in the whole chain
  induction hooks generalizing first watched with
  | nil => exact ⟨[], true, .through (all_accept_nil _), rfl⟩
  | cons hook rest ih =>
    rw [watchHooks, List.zipIdx_cons, List.map_cons]
    cases answer : (hook watched.context).1 with
    | true =>
      obtain ⟨executed, ran, course, run⟩ := ih (first + 1) (watchHook hook first watched).2
      refine ⟨hook :: executed, ran, course_cons hook rest executed _ ran answer course, ?_⟩
      rw [run_accepting _ _ _ watched answer]
      refine run.trans ?_
      simp [Watched.after, watchHook, executions, List.range'_succ, contextAfter, reached]
    | false =>
      refine ⟨[hook], false, .stopped [] hook rest rfl (all_accept_nil _) answer, ?_⟩
      rw [run_rejecting _ _ _ watched answer]
      rfl

theorem watched_run_same (hooks : List (Hook σ)) (handler : σ → σ) (first : Nat) (watched : Watched σ) :
    runWithHooks hooks handler watched.context =
      ((runWithHooks (watchHooks hooks first) (watchHandler handler) watched).1,
        (runWithHooks (watchHooks hooks first) (watchHandler handler) watched).2.context) := by
  induction hooks generalizing first watched with
  | nil => rfl
  | cons hook rest ih =>
    rw [watchHooks, List.zipIdx_cons, List.map_cons]
    cases answer : (hook watched.context).1 with
    | true =>
      rw [run_accepting _ _ _ _ answer, run_accepting _ _ _ watched answer]
      exact ih (first + 1) (watchHook hook first watched).2
    | false =>
      rw [run_rejecting _ _ _ _ answer, run_rejecting _ _ _ watched answer]
      rfl

theorem run_append (outer inner : List (Hook σ)) (handler : σ → σ) (context : σ) :
    runWithHooks (outer ++ inner) handler context =
      match runWithHooks outer id context with
      | (true, context) => runWithHooks inner handler context
      | (false, context) => (false, context) := by
  induction outer generalizing context with
  | nil => rfl
  | cons hook outer ih =>
    rw [List.cons_append]
    cases answer : (hook context).1 with
    | true => rw [run_accepting _ _ _ _ answer, run_accepting _ _ _ _ answer, ih]
    | false => rw [run_rejecting _ _ _ _ answer, run_rejecting _ _ _ _ answer]

structure Call (σ : Type) where
  hooks : List (Hook σ)
  handler : σ → σ

def Call.watched (call : Call σ) : Call (Watched σ) := ⟨watchHooks call.hooks 0, watchHandler call.handler⟩

def runCalls : List (Call σ) → σ → List (Bool × σ)
  | [], _ => []
  | call :: calls, context =>
    let result := runWithHooks call.hooks call.handler context
    result :: runCalls calls result.2

inductive Succession : List (Call σ) → Watched σ → List (Bool × Watched σ) → Prop where
  | none (watched : Watched σ) : Succession [] watched []
  | next (call : Call σ) (calls : List (Call σ)) (watched : Watched σ) (executed : List (Hook σ)) (ran : Bool)
      (course : Course call.hooks watched.context executed ran) (results : List (Bool × Watched σ))
      (later : Succession calls (watched.after call.handler 0 executed ran) results) :
      Succession (call :: calls) watched ((ran, watched.after call.handler 0 executed ran) :: results)

theorem watched_calls (calls : List (Call σ)) (watched : Watched σ) :
    Succession calls watched (runCalls (calls.map Call.watched) watched) := by
  induction calls generalizing watched with
  | nil => exact .none watched
  | cons call calls ih =>
    obtain ⟨executed, ran, course, run⟩ := watched_run call.hooks call.handler 0 watched
    rw [List.map_cons, runCalls, Call.watched, run]
    exact .next call calls watched executed ran course _ (ih _)

theorem watched_calls_same (calls : List (Call σ)) (watched : Watched σ) :
    runCalls calls watched.context =
      (runCalls (calls.map Call.watched) watched).map fun result => (result.1, result.2.context) := by
  induction calls generalizing watched with
  | nil => rfl
  | cons call calls ih =>
    rw [List.map_cons, runCalls, runCalls, List.map_cons, ← ih, watched_run_same call.hooks call.handler 0 watched]
    rfl

theorem hooks_executed_up_to_rejection (calls : List (Call σ)) (context : σ) :
    Succession calls ⟨context, []⟩ (runCalls (calls.map Call.watched) ⟨context, []⟩) ∧
    (runCalls calls context =
      (runCalls (calls.map Call.watched) ⟨context, []⟩).map fun result => (result.1, result.2.context)) ∧
    ∀ (outer inner : List (Hook σ)) (handler : σ → σ),
      runWithHooks (outer ++ inner) handler context =
        match runWithHooks outer id context with
        | (true, context) => runWithHooks inner handler context
        | (false, context) => (false, context) :=
  ⟨watched_calls calls ⟨context, []⟩, watched_calls_same calls ⟨context, []⟩,
    fun outer inner handler => run_append outer inner handler context⟩

example : runCalls (List.replicate 2 ⟨[fun sum => (decide (sum < 5), sum + 1)], (· + 10)⟩) 0 =
    [(true, 11), (false, 12)] := rfl

end ResourceRoutes
