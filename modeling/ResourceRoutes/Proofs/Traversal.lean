import Mathlib.Data.List.Forall2
set_option autoImplicit false

namespace ResourceRoutes

variable {α β γ ε : Type}

theorem mapM_map_ok (f : β → Except ε γ) (g : α → β) (h : α → γ) (xs : List α)
    (each : ∀ x ∈ xs, f (g x) = .ok (h x)) : (xs.map g).mapM f = .ok (xs.map h) := by
  induction xs with
  | nil => rfl
  | cons x xs ih =>
    have first := each x (List.mem_cons_self ..)
    have others := ih fun y member => each y (List.mem_cons_of_mem _ member)
    rw [List.map_cons, List.mapM_cons, first, others]
    rfl

theorem mapM_map_same (f : β → Except ε α) (g : α → β) (xs : List α) (each : ∀ x ∈ xs, f (g x) = .ok x) :
    (xs.map g).mapM f = .ok xs := by
  have read := mapM_map_ok f g id xs each
  rwa [List.map_id] at read

theorem mapM_cons_ok_iff (f : α → Except ε β) (x : α) (xs : List α) (zs : List β) :
    (x :: xs).mapM f = .ok zs ↔ ∃ y ys, f x = .ok y ∧ xs.mapM f = .ok ys ∧ zs = y :: ys := by
  rw [List.mapM_cons]
  cases f x with
  | error fault => simp [bind, Except.bind]
  | ok y => cases xs.mapM f <;> simp [bind, Except.bind, pure, Except.pure, eq_comm]

theorem mapM_ok_iff (f : α → Except ε β) (xs : List α) (ys : List β) :
    xs.mapM f = .ok ys ↔ List.Forall₂ (fun x y => f x = .ok y) xs ys := by
  induction xs generalizing ys with
  | nil =>
    rw [List.forall₂_nil_left_iff, List.mapM_nil]
    exact ⟨fun read => (Except.ok.inj read).symm, fun none => by rw [none]; rfl⟩
  | cons x xs ih => simp only [mapM_cons_ok_iff, List.forall₂_cons_left_iff, ih]

def fault? : Except ε β → Option ε
  | .ok _ => none
  | .error fault => some fault

theorem fault_some_iff (result : Except ε β) (fault : ε) : fault? result = some fault ↔ result = .error fault := by
  cases result <;> simp [fault?]

theorem fault_map (result : Except ε β) (f : β → γ) : fault? (result.map f) = fault? result := by
  cases result <;> rfl

theorem fault_sequence (first : Except ε Unit) (rest : Except ε β) :
    fault? (do first; rest) = (fault? first).or (fault? rest) := by
  cases first <;> rfl

theorem find_some_cons (f : α → Option β) (x : α) (xs : List α) :
    (x :: xs).findSome? f = (f x).or (xs.findSome? f) := by
  rw [List.findSome?_cons]
  cases f x <;> rfl

theorem find_some_flat_map (f : α → List β) (g : β → Option γ) (xs : List α) :
    (xs.flatMap f).findSome? g = xs.findSome? fun x => (f x).findSome? g := by
  induction xs with
  | nil => rfl
  | cons x xs ih => rw [List.flatMap_cons, List.findSome?_append, ih, find_some_cons]

theorem fault_mapM (f : α → Except ε β) (xs : List α) :
    fault? (xs.mapM f) = xs.findSome? fun x => fault? (f x) := by
  induction xs with
  | nil => rfl
  | cons x xs ih =>
    rw [List.mapM_cons, find_some_cons, ← ih]
    cases f x with
    | error fault => rfl
    | ok y => cases xs.mapM f <;> rfl

theorem item_by_item {all : List α → List β} {one : α → β} (none : all [] = [])
    (more : ∀ x xs, all (x :: xs) = one x :: all xs) (xs : List α) : all xs = xs.map one := by
  induction xs with
  | nil => exact none
  | cons x xs ih => rw [more, ih, List.map_cons]

theorem said_of_map {all : List β → Prop} {one : β → Prop} (none : all [])
    (more : ∀ y ys, one y → all ys → all (y :: ys)) (f : α → β) (xs : List α) (each : ∀ x ∈ xs, one (f x)) :
    all (xs.map f) := by
  induction xs with
  | nil => exact none
  | cons x xs ih =>
    have others := ih fun y member => each y (List.mem_cons_of_mem _ member)
    exact more (f x) (xs.map f) (each x (List.mem_cons_self ..)) others

theorem paired_source {R : α → β → Prop} {xs : List α} {ys : List β} (paired : List.Forall₂ R xs ys) (y : β)
    (member : y ∈ ys) : ∃ x ∈ xs, R x y := by
  induction paired with
  | nil => cases member
  | cons related _ ih =>
    rcases List.mem_cons.mp member with rfl | later
    · exact ⟨_, List.mem_cons_self .., related⟩
    · obtain ⟨x, held, found⟩ := ih later
      exact ⟨x, List.mem_cons_of_mem _ held, found⟩

theorem paired_pairwise {R : α → β → Prop} {S : α → α → Prop} {T : β → β → Prop} {xs : List α} {ys : List β}
    (paired : List.Forall₂ R xs ys) (carried : ∀ x x' y y', R x y → R x' y' → S x x' → T y y')
    (apart : xs.Pairwise S) : ys.Pairwise T := by
  induction paired with
  | nil => exact .nil
  | cons related others ih =>
    obtain ⟨first, rest⟩ := List.pairwise_cons.mp apart
    refine List.pairwise_cons.mpr ⟨fun y' member => ?_, ih rest⟩
    obtain ⟨x', held, found⟩ := paired_source others y' member
    exact carried _ _ _ _ related found (first x' held)

theorem map_of_mapM (f : α → Option β) (xs : List α) (ys : List β) (read : xs.mapM f = some ys) :
    xs.map f = ys.map some := by
  induction xs generalizing ys with
  | nil =>
    cases read
    rfl
  | cons x xs ih =>
    rw [List.mapM_cons] at read
    obtain ⟨y, first, later⟩ := Option.bind_eq_some_iff.mp read
    obtain ⟨others, rest, same⟩ := Option.bind_eq_some_iff.mp later
    cases same
    rw [List.map_cons, List.map_cons, first, ih others rest]

theorem taken_entries (xs : List α) : ((xs.map some).takeWhile Option.isSome).filterMap id = xs := by
  induction xs with
  | nil => rfl
  | cons x xs ih => simpa using ih

end ResourceRoutes
