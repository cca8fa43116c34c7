import ResourceRoutes.Proofs.Registry.Schedule
import ResourceRoutes.Proofs.Registry.Workers
set_option autoImplicit false

namespace ResourceRoutes.Registry

inductive Operation where
  | register (name : String) (descriptor : Descriptor)
  | extend (resources : List Resource)

def Operation.resources : Operation → List Resource
  | .register name descriptor => [⟨name, descriptor⟩]
  | .extend resources => resources

def apply (registry : Registry) : Operation → Registry
  | .register name descriptor => registry.register ⟨name, descriptor⟩
  | .extend resources => registry.extend resources

def after (operations : List Operation) : Registry := operations.foldl apply {}

theorem extend_resources (registry : Registry) (resources : List Resource) :
    (registry.extend resources).resources = registry.resources ++ resources := by
  induction resources generalizing registry with
  | nil => exact (List.append_nil _).symm
  | cons resource rest ih =>
    have registered : (registry.register resource).resources = registry.resources ++ [resource] := rfl
    rw [extend, List.foldl_cons, ← extend, ih, registered, List.append_assoc]
    rfl

theorem apply_resources (registry : Registry) (operation : Operation) :
    (registry.apply operation).resources = registry.resources ++ operation.resources := by
  cases operation with
  | register name descriptor => rfl
  | extend resources => exact extend_resources registry resources

theorem run_resources (registry : Registry) (operations : List Operation) :
    (operations.foldl apply registry).resources = registry.resources ++ operations.flatMap (·.resources) := by
  induction operations generalizing registry with
  | nil => exact (List.append_nil _).symm
  | cons operation rest ih =>
    rw [List.foldl_cons, ih, apply_resources, List.flatMap_cons, List.append_assoc]

theorem reports_under_possible (registry : Registry) (jobs : Nat) (outcome : Pool.Outcome)
    (possible : 1 < jobs → outcome.Possible jobs registry.size) :
    registry.reportsUnder jobs outcome = registry.reports := by
  by_cases several : 1 < jobs
  · cases outcome with
    | unbuilt => exact ite_self _
    | finished completions =>
      have all := ((Pool.completes_iff jobs registry.size completions).mp (possible several)).1
      refine reports_under_covered registry jobs completions fun i bound => ?_
      exact all.mem_iff.mpr (List.mem_range.mpr bound)
  · exact if_pos (.inl (by omega))

theorem registered_reports_in_order (operations : List Operation) (jobs : Nat) (outcome : Pool.Outcome)
    (possible : 1 < jobs → outcome.Possible jobs (after operations).size) :
    (after operations).resources = operations.flatMap (·.resources) ∧
      ((after operations).reportsUnder jobs outcome).length = (after operations).size ∧
      (∀ (i : Nat) (resource : Resource), (after operations).resources[i]? = some resource →
        ((after operations).reportsUnder jobs outcome)[i]? = some (introspect resource.name resource.descriptor)) ∧
      (after operations).reportsWith jobs = (after operations).reportsUnder jobs outcome ∧
      (1 < jobs → ∀ progress, (Pool.Progress.start (after operations).size).Reaches jobs progress →
        ∃ completions, progress.Reaches jobs (.finish completions)) := by
  rw [reports_under_possible _ jobs outcome possible, reports_with_jobs]
  refine ⟨run_resources {} operations, List.length_map .., fun i resource held => ?_, rfl, fun several progress _ => ?_⟩
  · rw [reports, List.getElem?_map, held]
    rfl
  · exact Pool.Progress.can_finish jobs (by omega) progress

def repeatedName : List Operation :=
  [.register "A" .empty, .extend [⟨"B", .empty⟩, ⟨"A", .ofList [("Put", .value "u8")]⟩]]

theorem repeated_name_reported_twice :
    (after repeatedName).resources = [⟨"A", .empty⟩, ⟨"B", .empty⟩, ⟨"A", .ofList [("Put", .value "u8")]⟩] ∧
      Pool.Completes 2 3 [⟨1, 2⟩, ⟨0, 0⟩, ⟨1, 1⟩] ∧
      (after repeatedName).reportsUnder 2 (.finished [⟨1, 2⟩, ⟨0, 0⟩, ⟨1, 1⟩]) =
        [{ structName := "A" }, { structName := "B" },
          { structName := "A", warnings := ["method 'Put' is present but invalid: not a function: u8"] }] := by
  have completes : Pool.Completes 2 3 [⟨1, 2⟩, ⟨0, 0⟩, ⟨1, 1⟩] := (Pool.completes_iff _ _ _).mpr (by decide)
  obtain ⟨resources, -, -, made, -⟩ :=
    registered_reports_in_order repeatedName 2 (.finished [⟨1, 2⟩, ⟨0, 0⟩, ⟨1, 1⟩]) fun _ => completes
  exact ⟨resources, completes, made.symm.trans (by decide)⟩

end ResourceRoutes.Registry
