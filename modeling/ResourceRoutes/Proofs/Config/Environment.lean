import ResourceRoutes.Config
import ResourceRoutes.Proofs.Text.Blank
import ResourceRoutes.Proofs.Text.Numeral
set_option autoImplicit false

/- A variable that asks for no workers overrides the settings all the same. -/
namespace ResourceRoutes

namespace Text

theorem digit_not_blank (c : Char) (digit : c.isDigit = true) : isBlank c = false := by
  have range := Decimal.digit_range c digit
  have each : ∀ n < 58, 48 ≤ n → within n whiteSpaceRanges = false := by decide
  exact each c.toNat (by omega) range.1

theorem trim_numeral (n : Nat) (before core after : List Char) (spelled : Spells n core)
    (blank_before : ∀ c ∈ before, isBlank c = true) (blank_after : ∀ c ∈ after, isBlank c = true) :
    trim (before ++ core ++ after) = core := by
  have solid : ∀ c ∈ core, isBlank c = false := by
    intro c member
    cases spelled with
    | unsigned zeros => exact digit_not_blank c (padded_char zeros n c member)
    | signed zeros =>
      cases List.mem_cons.mp member with
      | inl sign =>
        rw [sign]
        rfl
      | inr digit => exact digit_not_blank c (padded_char zeros n c digit)
  have present : core ≠ [] := by
    cases spelled with
    | unsigned zeros => exact padded_present zeros n
    | signed zeros => exact nofun
  exact trim_surrounded before core after blank_before blank_after (fun c first => solid c (List.mem_of_mem_head? first))
    (fun c last => solid c (List.mem_of_getLast? last)) present

end Text

def Environment.AsksFor (env : Environment) (n : Nat) : Prop :=
  ∃ value before core after, env.get? Config.jobsVariable = some value ∧ value.toList = before ++ core ++ after ∧
    (∀ c ∈ before, Text.isBlank c = true) ∧ (∀ c ∈ after, Text.isBlank c = true) ∧ Text.Spells n core

namespace Config

theorem jobs_of_iff (env : Environment) (n : Nat) :
    env.get? jobsVariable >>= jobsOf? = some n ↔ env.AsksFor n ∧ n < natBound := by
  constructor
  · intro read
    obtain ⟨value, given, numeral⟩ := Option.bind_eq_some_iff.mp read
    obtain ⟨spelled, small⟩ := (Text.numeral_iff _ n).mp numeral
    obtain ⟨before, after, split, blank_before, blank_after⟩ := Text.trim_split value.toList
    exact ⟨⟨value, before, _, after, given, split, blank_before, blank_after, spelled⟩, small⟩
  · rintro ⟨⟨value, before, core, after, given, split, blank_before, blank_after, spelled⟩, small⟩
    rw [given]
    show Text.numeral? (Text.trim value.toList) = some n
    rw [split, Text.trim_numeral n before core after spelled blank_before blank_after]
    exact (Text.numeral_iff core n).mpr ⟨spelled, small⟩

theorem asks_for_one (env : Environment) (n m : Nat) (first : env.AsksFor n) (second : env.AsksFor m) : n = m := by
  obtain ⟨value, before, core, after, given, split, blank_before, blank_after, spelled⟩ := first
  obtain ⟨other, before', core', after', given', split', blank_before', blank_after', spelled'⟩ := second
  obtain rfl : value = other := Option.some.inj (given.symm.trans given')
  have trimmed := Text.trim_numeral n before core after spelled blank_before blank_after
  rw [← split, split', Text.trim_numeral m before' core' after' spelled' blank_before' blank_after'] at trimmed
  rw [trimmed] at spelled'
  exact Text.spells_same n m core spelled spelled'

theorem environment_asked (config : Config) (env : Environment) (n : Nat) (asked : env.AsksFor n) (small : n < natBound) :
    (config.withEnvironment env).jobs = max n 1 := by
  have read := (jobs_of_iff env n).mpr ⟨asked, small⟩
  rw [withEnvironment, read]
  rfl

theorem environment_unasked (config : Config) (env : Environment) (unasked : ∀ n, env.AsksFor n → natBound ≤ n) :
    (config.withEnvironment env).jobs = config.jobs := by
  have unread : env.get? jobsVariable >>= jobsOf? = none := by
    rw [Option.eq_none_iff_forall_ne_some]
    intro n read
    obtain ⟨asked, small⟩ := (jobs_of_iff env n).mp read
    have large := unasked n asked
    omega
  rw [withEnvironment, unread]
  cases env.get? prefixVariable <;> rfl

structure FollowsPositive (config : Config) (env : Environment) (jobs : Nat) : Prop where
  taken : ∀ n, 0 < n → n < natBound → env.AsksFor n → jobs = n
  left : (∀ n, env.AsksFor n → n = 0 ∨ natBound ≤ n) → jobs = config.jobs

theorem environment_jobs_iff (config : Config) (env : Environment) :
    (FollowsPositive config env (config.withEnvironment env).jobs ↔ (env.AsksFor 0 → config.jobs = 1)) ∧
      (env.AsksFor 0 → (config.withEnvironment env).jobs = 1) := by
  have of_zero (asked : env.AsksFor 0) : (config.withEnvironment env).jobs = 1 :=
    environment_asked config env 0 asked (by decide)
  refine ⟨⟨fun follows asked => ?_, fun alone => ⟨?_, fun none_positive => ?_⟩⟩, of_zero⟩
  · have left := follows.left fun n other => .inl (asks_for_one env n 0 other asked)
    exact left.symm.trans (of_zero asked)
  · intro n positive small asked
    rw [environment_asked config env n asked small]
    omega
  · by_cases zero : env.AsksFor 0
    · rw [of_zero zero, alone zero]
    · refine environment_unasked config env fun n asked => (none_positive n asked).resolve_left ?_
      rintro rfl
      exact zero asked

theorem zero_workers_asked_for :
    Environment.AsksFor ⟨[(jobsVariable, "0")]⟩ 0 ∧
      (withEnvironment { jobs := 4, jobs_pos := by decide } ⟨[(jobsVariable, "0")]⟩).jobs = 1 ∧
      ¬ FollowsPositive { jobs := 4, jobs_pos := by decide } ⟨[(jobsVariable, "0")]⟩
        (withEnvironment { jobs := 4, jobs_pos := by decide } ⟨[(jobsVariable, "0")]⟩).jobs := by
  have asked : Environment.AsksFor ⟨[(jobsVariable, "0")]⟩ 0 :=
    ⟨"0", [], ['0'], [], rfl, rfl, nofun, nofun, .unsigned 0⟩
  have single : (withEnvironment { jobs := 4, jobs_pos := by decide } ⟨[(jobsVariable, "0")]⟩).jobs = 1 := by decide
  refine ⟨asked, single, fun follows => ?_⟩
  have left := follows.left fun n other => .inl (asks_for_one _ n 0 other asked)
  rw [single] at left
  cases left

end Config

end ResourceRoutes
