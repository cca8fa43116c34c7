import Mathlib.Data.List.Perm.Basic
import Mathlib.Logic.Relation
import ResourceRoutes.Registry.Pool
set_option autoImplicit false

/- Runs of the workers of a pool, which take and finish work in any order, and how they can end. -/
namespace ResourceRoutes.Pool

structure Progress where
  waiting : List Nat
  busy : List Completion := []
  finished : List Completion := []

namespace Progress

def start (count : Nat) : Progress := ⟨List.range count, [], []⟩

def finish (completions : List Completion) : Progress := ⟨[], [], completions⟩

inductive Step (jobs : Nat) (progress : Progress) : Progress → Prop where
  | take (worker index : Nat) (hired : worker < jobs) (idle : ∀ other ∈ progress.busy, other.worker ≠ worker)
      (untaken : index ∈ progress.waiting) :
      Step jobs progress
        ⟨progress.waiting.erase index, ⟨worker, index⟩ :: progress.busy, progress.finished⟩
  | finish (completion : Completion) (inHand : completion ∈ progress.busy) :
      Step jobs progress
        ⟨progress.waiting, progress.busy.erase completion, progress.finished ++ [completion]⟩

def Reaches (jobs : Nat) : Progress → Progress → Prop := Relation.ReflTransGen (Step jobs)

def indices (progress : Progress) : List Nat :=
  progress.waiting ++ (progress.busy ++ progress.finished).map (·.index)

structure Sound (jobs count : Nat) (progress : Progress) : Prop where
  accounted : progress.indices.Perm (List.range count)
  staffed : ∀ completion ∈ progress.busy ++ progress.finished, completion.worker < jobs

theorem start_sound (jobs count : Nat) : (start count).Sound jobs count :=
  ⟨by simp [start, indices], by simp [start]⟩

theorem step_indices (jobs : Nat) (progress next : Progress) (step : Step jobs progress next) :
    next.indices.Perm progress.indices := by
  cases step with
  | take worker index _ _ untaken =>
    have taken := List.perm_cons_erase untaken
    exact List.perm_middle.trans (taken.symm.append_right _)
  | finish completion inHand =>
    have moved : (progress.busy.erase completion ++ (progress.finished ++ [completion])).Perm
        (progress.busy ++ progress.finished) := by
      rw [← List.append_assoc]
      refine (List.perm_append_singleton _ _).trans ?_
      exact (List.perm_cons_erase inHand).symm.append_right _
    exact (moved.map _).append_left _

theorem step_sound (jobs count : Nat) (progress next : Progress) (step : Step jobs progress next)
    (sound : progress.Sound jobs count) : next.Sound jobs count := by
  refine ⟨(step_indices jobs progress next step).trans sound.accounted, ?_⟩
  cases step with
  | take worker index hired _ _ => exact List.forall_mem_cons.mpr ⟨hired, sound.staffed⟩
  | finish completion inHand =>
    intro other member
    refine sound.staffed other ?_
    simp only [List.mem_append, List.mem_singleton] at member ⊢
    rcases member with left | done | rfl
    · exact .inl (List.mem_of_mem_erase left)
    · exact .inr done
    · exact .inl inHand

theorem run_sound (jobs count : Nat) (progress next : Progress) (run : Reaches jobs progress next)
    (sound : progress.Sound jobs count) : next.Sound jobs count := by
  induction run with
  | refl => exact sound
  | tail _ step ih => exact step_sound jobs count _ _ step ih

def stepsLeft (progress : Progress) : Nat := 2 * progress.waiting.length + progress.busy.length

theorem step_counts (jobs : Nat) (progress next : Progress) (step : Step jobs progress next) :
    next.stepsLeft + 1 = progress.stepsLeft := by
  cases step with
  | take worker index _ _ untaken =>
    have shorter := List.length_erase_of_mem untaken
    have present := List.length_pos_of_mem untaken
    simp only [stepsLeft, List.length_cons]
    omega
  | finish completion inHand =>
    have shorter := List.length_erase_of_mem inHand
    have present := List.length_pos_of_mem inHand
    simp only [stepsLeft]
    omega

theorem step_enabled (jobs : Nat) (hired : 0 < jobs) (progress : Progress) (unfinished : progress.stepsLeft ≠ 0) :
    ∃ next, Step jobs progress next := by
  obtain ⟨waiting, busy, finished⟩ := progress
  cases busy with
  | cons completion others => exact ⟨_, .finish completion (List.mem_cons_self ..)⟩
  | nil =>
    cases waiting with
    | cons index others => exact ⟨_, .take 0 index hired (by simp) (List.mem_cons_self ..)⟩
    | nil => exact absurd rfl unfinished

theorem can_finish (jobs : Nat) (hired : 0 < jobs) (progress : Progress) :
    ∃ completions, Reaches jobs progress (finish completions) := by
  generalize left : progress.stepsLeft = n
  induction n generalizing progress with
  | zero =>
    obtain ⟨waiting, busy, finished⟩ := progress
    simp only [stepsLeft] at left
    obtain rfl : waiting = [] := List.length_eq_zero_iff.mp (by omega)
    obtain rfl : busy = [] := List.length_eq_zero_iff.mp (by omega)
    exact ⟨finished, .refl⟩
  | succ n ih =>
    obtain ⟨next, step⟩ := step_enabled jobs hired progress (by omega)
    have counted := step_counts jobs progress next step
    obtain ⟨completions, run⟩ := ih next (by omega)
    exact ⟨completions, .head step run⟩

end Progress

def Completes (jobs count : Nat) (completions : List Completion) : Prop :=
  (Progress.start count).Reaches jobs (.finish completions)

theorem reaches_in_order (jobs : Nat) (completions : List Completion) (waiting : List Nat) (done : List Completion)
    (all : (completions.map (·.index)).Perm waiting) (staffed : ∀ completion ∈ completions, completion.worker < jobs) :
    Progress.Reaches jobs ⟨waiting, [], done⟩ (.finish (done ++ completions)) := by
  induction completions generalizing waiting done with
  | nil =>
    obtain rfl := List.nil_perm.mp all
    rw [List.append_nil]
    exact .refl
  | cons completion others ih =>
    obtain ⟨hired, others_staffed⟩ := List.forall_mem_cons.mp staffed
    obtain ⟨untaken, rest⟩ := List.cons_perm_iff_perm_erase.mp all
    have take : Progress.Step jobs ⟨waiting, [], done⟩ ⟨waiting.erase completion.index, [completion], done⟩ :=
      .take completion.worker completion.index hired (by simp) untaken
    have finish : Progress.Step jobs ⟨waiting.erase completion.index, [completion], done⟩
        ⟨waiting.erase completion.index, [], done ++ [completion]⟩ := by
      simpa using @Progress.Step.finish jobs ⟨waiting.erase completion.index, [completion], done⟩ completion
        (List.mem_cons_self ..)
    have others_run := ih (waiting.erase completion.index) (done ++ [completion]) rest others_staffed
    rw [List.append_assoc] at others_run
    exact .head take (.head finish others_run)

theorem completes_iff (jobs count : Nat) (completions : List Completion) :
    Completes jobs count completions ↔
      (completions.map (·.index)).Perm (List.range count) ∧ ∀ completion ∈ completions, completion.worker < jobs := by
  constructor
  · intro run
    have sound := Progress.run_sound jobs count _ _ run (Progress.start_sound jobs count)
    exact ⟨sound.accounted, sound.staffed⟩
  · rintro ⟨all, staffed⟩
    -- in this run every piece of work is finished before the next one is taken
    exact reaches_in_order jobs completions (List.range count) [] all staffed

def Outcome.Possible (jobs count : Nat) : Outcome → Prop
  | .unbuilt => True
  | .finished completions => Completes jobs count completions

end ResourceRoutes.Pool
