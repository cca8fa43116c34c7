import ResourceRoutes.Registry
set_option autoImplicit false

/- Inspection by several workers. Each finished piece of work is stored in the cell of its index, so
neither the number of workers nor the order in which they finish shows in the result. -/
namespace ResourceRoutes.Pool

structure Completion where
  worker : Nat
  index : Nat
deriving DecidableEq, Repr

def store {α β : Type} (work : α → β) (xs : List α) (cells : List (Option β)) (completion : Completion) :
    List (Option β) :=
  match xs[completion.index]? with
  | some x => cells.set completion.index (some (work x))
  | none => cells

def collect {α β : Type} (work : α → β) (xs : List α) (completions : List Completion) : List (Option β) :=
  completions.foldl (store work xs) (xs.map fun _ => none)

def deal (jobs count : Nat) : List Completion :=
  (List.range count).map fun i => ⟨i % jobs, i⟩

inductive Outcome where
  | unbuilt
  | finished (completions : List Completion)
deriving DecidableEq, Repr

end ResourceRoutes.Pool

namespace ResourceRoutes.Registry

def reportsUnder (registry : Registry) (jobs : Nat) (outcome : Pool.Outcome) : List Report :=
  if jobs ≤ 1 ∨ registry.size < 2 then registry.reports
  else
    match outcome with
    | .unbuilt => registry.reports
    | .finished completions =>
      (Pool.collect (fun resource : Resource => introspect resource.name resource.descriptor) registry.resources
        completions).filterMap id

def reportsWith (registry : Registry) (jobs : Nat) : List Report :=
  registry.reportsUnder jobs (.finished (Pool.deal jobs registry.size))

end ResourceRoutes.Registry
