import ResourceRoutes.Registry.Pool
set_option autoImplicit false

/- Results are stored by index, so how the work is scheduled does not show in them. -/
namespace ResourceRoutes.Pool

variable {α β : Type}

theorem store_length (work : α → β) (xs : List α) (cells : List (Option β)) (completion : Completion) :
    (store work xs cells completion).length = cells.length := by
  unfold store
  split
  · exact List.length_set
  · rfl

theorem store_cell (work : α → β) (xs : List α) (cells : List (Option β)) (completion : Completion)
    (i : Nat) (x : α) (held : xs[i]? = some x) (sized : cells.length = xs.length) :
    (store work xs cells completion)[i]? =
      if completion.index = i then some (some (work x)) else cells[i]? := by
  have bound : i < cells.length := by
    rw [sized]
    exact (List.getElem?_eq_some_iff.mp held).1
  unfold store
  by_cases same : completion.index = i
  · subst same
    simp [held, bound]
  · rw [if_neg same]
    split
    · exact List.getElem?_set_ne same
    · rfl

theorem stored_cells (work : α → β) (xs : List α) (completions : List Completion) (i : Nat) (x : α)
    (held : xs[i]? = some x) (cells : List (Option β)) (sized : cells.length = xs.length) :
    (completions.foldl (store work xs) cells)[i]? =
      if i ∈ completions.map (·.index) then some (some (work x)) else cells[i]? := by
  induction completions generalizing cells with
  | nil => simp
  | cons completion rest ih =>
    rw [List.foldl_cons, ih _ ((store_length ..).trans sized), store_cell work xs cells completion i x held sized]
    by_cases later : i ∈ rest.map (·.index)
    · simp [later]
    · simp [later, eq_comm]

theorem collect_length (work : α → β) (xs : List α) (completions : List Completion) :
    (collect work xs completions).length = xs.length := by
  have kept (cells : List (Option β)) : (completions.foldl (store work xs) cells).length = cells.length := by
    induction completions generalizing cells with
    | nil => rfl
    | cons completion rest ih => rw [List.foldl_cons, ih, store_length]
  simpa [collect] using kept (xs.map fun _ => none)

theorem collect_covered (work : α → β) (xs : List α) (completions : List Completion)
    (covered : ∀ i, i < xs.length → i ∈ completions.map (·.index)) :
    collect work xs completions = xs.map fun x => some (work x) := by
  apply List.ext_getElem?
  intro i
  cases held : xs[i]? with
  | none =>
    have beyond : xs.length ≤ i := List.getElem?_eq_none_iff.mp held
    rw [List.getElem?_eq_none (by rw [collect_length]; exact beyond), List.getElem?_map, held, Option.map_none]
  | some x =>
    have bound := (List.getElem?_eq_some_iff.mp held).1
    rw [collect, stored_cells work xs completions i x held _ (by simp), if_pos (covered i bound),
      List.getElem?_map, held, Option.map_some]

theorem deal_covers (jobs count i : Nat) (bound : i < count) : i ∈ (deal jobs count).map (·.index) := by
  simp [deal, bound]

end ResourceRoutes.Pool

namespace ResourceRoutes.Registry

theorem reports_under_covered (registry : Registry) (jobs : Nat) (completions : List Pool.Completion)
    (covered : ∀ i, i < registry.size → i ∈ completions.map (·.index)) :
    registry.reportsUnder jobs (.finished completions) = registry.reports := by
  unfold reportsUnder
  split
  · rfl
  · simp only [Pool.collect_covered _ registry.resources completions covered, List.filterMap_map]
    exact congrFun List.filterMap_eq_map registry.resources

theorem reports_with_jobs (registry : Registry) (jobs : Nat) : registry.reportsWith jobs = registry.reports :=
  reports_under_covered registry jobs _ fun i bound => Pool.deal_covers jobs registry.size i bound

end ResourceRoutes.Registry
