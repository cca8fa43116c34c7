import Mathlib.Data.Nat.Bitwise
import ResourceRoutes.Text.Casing
set_option autoImplicit false

/- No code point that a mapping leads to is one that it moves. -/
namespace ResourceRoutes.Text

-- The bit of each code is set. Two sets are compared in one step, where a walk through both takes thousands.
def bits (codes : List Nat) : Nat := codes.foldr (fun n rest => 2 ^ n ||| rest) 0

theorem test_bits (codes : List Nat) (n : Nat) : (bits codes).testBit n = decide (n ∈ codes) := by
  induction codes with
  | nil => simp [bits]
  | cons code rest ih =>
    rw [bits, List.foldr_cons, ← bits, Nat.testBit_or, Nat.testBit_two_pow, ih]
    simp [List.mem_cons, eq_comm]

theorem bit_of_member (codes : List Nat) (n : Nat) (member : n ∈ codes) : (bits codes).testBit n = true := by
  rw [test_bits, decide_eq_true member]

theorem below_of_bits (codes : List Nat) (bound n : Nat) (below : bits codes < 2 ^ bound) (member : n ∈ codes) :
    n < bound := by
  by_contra beyond
  have higher : bits codes < 2 ^ n := below.trans_le (Nat.pow_le_pow_right Nat.two_pos (Nat.le_of_not_lt beyond))
  have held := bit_of_member codes n member
  rw [Nat.testBit_lt_two_pow higher] at held
  cases held

def SettledBits (keys images : List Nat) : Prop :=
  bits images < 2 ^ 0x110000 ∧ bits images >>> 0xD800 % 2 ^ 0x800 = 0 ∧ bits keys &&& bits images = 0

instance (keys images : List Nat) : Decidable (SettledBits keys images) := inferInstanceAs (Decidable (_ ∧ _ ∧ _))

theorem surrogate_of_invalid (n : Nat) (bounded : n < 0x110000) (invalid : ¬ n.isValidChar) :
    0xD800 ≤ n ∧ n < 0xD800 + 0x800 := by
  rw [Nat.isValidChar] at invalid
  omega

theorem valid_of_bits (keys images : List Nat) (settled : SettledBits keys images) (n : Nat) (member : n ∈ images) :
    n.isValidChar := by
  obtain ⟨below, no_surrogate, -⟩ := settled
  by_contra invalid
  obtain ⟨above, inside⟩ := surrogate_of_invalid n (below_of_bits images _ n below member) invalid
  have shifted : (bits images >>> 0xD800 % 2 ^ 0x800).testBit (n - 0xD800) = true := by
    rw [Nat.testBit_mod_two_pow, Nat.testBit_shiftRight, Nat.add_sub_cancel' above,
      bit_of_member images n member, Bool.and_true]
    exact decide_eq_true (Nat.sub_lt_left_of_lt_add above inside)
  rw [no_surrogate, Nat.zero_testBit] at shifted
  cases shifted

theorem apart_of_bits (keys images : List Nat) (settled : SettledBits keys images) (n : Nat) (member : n ∈ images) :
    n ∉ keys := by
  obtain ⟨-, -, apart⟩ := settled
  intro shared
  have common : (bits keys &&& bits images).testBit n = true := by
    rw [Nat.testBit_and, bit_of_member keys n shared, bit_of_member images n member]
    rfl
  rw [apart, Nat.zero_testBit] at common
  cases common

def CaseRun.codes (run : CaseRun) : List Nat :=
  (List.range ((run.last - run.first) / run.step + 1)).map fun i => run.first + run.step * i

def CaseRun.images (run : CaseRun) : List Nat := run.codes.map fun n => (Int.ofNat n + run.shift).toNat

theorem CaseRun.image_listed (run : CaseRun) (n image : Nat) (above : run.first ≤ n) (found : run.image? n = some image) :
    n ∈ run.codes ∧ image ∈ run.images := by
  rw [CaseRun.image?] at found
  split at found
  · rename_i reaches
    obtain ⟨below, divides⟩ := (Bool.and_eq_true ..).mp reaches
    have listed : n ∈ run.codes := by
      refine List.mem_map.mpr ⟨(n - run.first) / run.step, List.mem_range.mpr ?_, ?_⟩
      · have shorter : n - run.first ≤ run.last - run.first := Nat.sub_le_sub_right (of_decide_eq_true below) _
        exact Nat.lt_succ_of_le (Nat.div_le_div_right shorter)
      · rw [Nat.mul_div_cancel' (Nat.dvd_of_mod_eq_zero (beq_iff_eq.mp divides)), Nat.add_sub_cancel' above]
    cases found
    exact ⟨listed, List.mem_map_of_mem listed⟩
  · cases found

section

variable (expansions : List (Nat × List Nat)) (runs : List CaseRun)

def moved : List Nat := expansions.map (·.1) ++ runs.flatMap (·.codes)

def reached : List Nat := expansions.flatMap (·.2) ++ runs.flatMap (·.images)

theorem map_by_runs_cases (n : Nat) : mapByRuns n runs = n ∨
    n ∈ runs.flatMap (·.codes) ∧ mapByRuns n runs ∈ runs.flatMap (·.images) := by
  induction runs with
  | nil => exact .inl rfl
  | cons run rest ih =>
    rw [mapByRuns]
    by_cases before : n < run.first
    · exact .inl (if_pos before)
    · rw [if_neg before]
      cases found : run.image? n with
      | some image =>
        obtain ⟨code, listed⟩ := run.image_listed n image (Nat.le_of_not_lt before) found
        exact .inr ⟨List.mem_append_left _ code, List.mem_append_left _ listed⟩
      | none =>
        obtain same | ⟨code, listed⟩ := ih
        · exact .inl same
        · exact .inr ⟨List.mem_append_right _ code, List.mem_append_right _ listed⟩

theorem map_case_unmoved (c : Char) (unmoved : c.toNat ∉ moved expansions runs) : mapCase expansions runs c = [c] := by
  obtain ⟨no_key, no_code⟩ := not_or.mp (mt List.mem_append.mpr unmoved)
  have absent : expansions.lookup c.toNat = none := by
    refine List.lookup_eq_none_iff.mpr fun entry listed => bne_iff_ne.mpr ?_
    intro same
    exact no_key (same ▸ List.mem_map_of_mem listed)
  obtain same | ⟨code, -⟩ := map_by_runs_cases runs c.toNat
  · simp only [mapCase, absent, same, Char.ofNat_toNat]
  · exact absurd code no_code

theorem expansion_listed (n : Nat) (codes : List Nat) (held : expansions.lookup n = some codes) :
    (n, codes) ∈ expansions := by
  obtain ⟨before, after, same, -⟩ := List.lookup_eq_some_iff.mp held
  rw [same]
  exact List.mem_append_right _ (List.mem_cons_self ..)

theorem map_case_cases (c : Char) : mapCase expansions runs c = [c] ∨
    ∀ d ∈ mapCase expansions runs c, ∃ n ∈ reached expansions runs, d = Char.ofNat n := by
  rw [mapCase]
  cases held : expansions.lookup c.toNat with
  | some codes =>
    refine .inr fun d image => ?_
    obtain ⟨n, code, rfl⟩ := List.mem_map.mp image
    have key := expansion_listed expansions c.toNat codes held
    exact ⟨n, List.mem_append_left _ (List.mem_flatMap.mpr ⟨_, key, code⟩), rfl⟩
  | none =>
    obtain same | ⟨-, image⟩ := map_by_runs_cases runs c.toNat
    · exact .inl (by simp only [same, Char.ofNat_toNat])
    · refine .inr fun d single => ?_
      exact ⟨_, List.mem_append_right _ image, List.mem_singleton.mp single⟩

theorem map_case_present (several : ∀ entry ∈ expansions, entry.2 ≠ []) (c : Char) : mapCase expansions runs c ≠ [] := by
  rw [mapCase]
  cases held : expansions.lookup c.toNat with
  | some codes =>
    exact fun empty => several _ (expansion_listed expansions c.toNat codes held) (List.map_eq_nil_iff.mp empty)
  | none => exact List.cons_ne_nil _ _

variable {expansions runs} (valid : ∀ n ∈ reached expansions runs, n.isValidChar)

include valid

theorem reached_code (c : Char) (n : Nat) (image : n ∈ reached expansions runs) (same : c = Char.ofNat n) :
    c.toNat = n := by
  rw [same, Char.ofNat, dif_pos (valid n image)]
  rfl

theorem map_case_settled (apart : ∀ n ∈ reached expansions runs, n ∉ moved expansions runs) (c d : Char)
    (listed : d ∈ mapCase expansions runs c) : mapCase expansions runs d = [d] := by
  obtain same | images := map_case_cases expansions runs c
  · rw [same] at listed
    rw [List.mem_singleton.mp listed, same]
  · obtain ⟨n, image, of_code⟩ := images d listed
    refine map_case_unmoved expansions runs d ?_
    rw [reached_code valid d n image of_code]
    exact apart n image

theorem map_case_avoids (c mark : Char) (unreached : mark.toNat ∉ reached expansions runs) (other : c ≠ mark) :
    mark ∉ mapCase expansions runs c := by
  intro listed
  obtain same | images := map_case_cases expansions runs c
  · rw [same] at listed
    exact other (List.mem_singleton.mp listed).symm
  · obtain ⟨n, image, of_code⟩ := images mark listed
    exact unreached (reached_code valid mark n image of_code ▸ image)

end

-- Both tables in one evaluation, which the kernel makes once.
theorem tables_settled :
    SettledBits ('_'.toNat :: moved upperExpansions upperRuns) (reached upperExpansions upperRuns) ∧
      SettledBits (moved lowerExpansions lowerRuns) (reached lowerExpansions lowerRuns) := by
  decide +kernel

theorem upper_reached_valid : ∀ n ∈ reached upperExpansions upperRuns, n.isValidChar :=
  valid_of_bits _ _ tables_settled.1

theorem upper_apart : ∀ n ∈ reached upperExpansions upperRuns, n ∉ '_'.toNat :: moved upperExpansions upperRuns :=
  apart_of_bits _ _ tables_settled.1

theorem upper_settled (c d : Char) (listed : d ∈ upperChar c) : upperChar d = [d] :=
  map_case_settled upper_reached_valid
    (fun n image shared => upper_apart n image (List.mem_cons_of_mem _ shared)) c d listed

theorem upper_no_underscore (c : Char) (other : c ≠ '_') : '_' ∉ upperChar c :=
  map_case_avoids upper_reached_valid c '_' (fun image => upper_apart _ image (List.mem_cons_self ..)) other

theorem upper_present (c : Char) : upperChar c ≠ [] :=
  map_case_present upperExpansions upperRuns (by decide) c

theorem lower_settled (c d : Char) (listed : d ∈ lowerChar c) : lowerChar d = [d] :=
  map_case_settled (valid_of_bits _ _ tables_settled.2) (apart_of_bits _ _ tables_settled.2) c d listed

theorem sigma_settled : lowerChar 'σ' = ['σ'] ∧ lowerChar 'ς' = ['ς'] ∧ lowerChar 'Σ' ≠ ['Σ'] := by decide

theorem lower_after_settled (before cs : List Char) (d : Char) (listed : d ∈ lowerAfter before cs) :
    d ≠ 'Σ' ∧ lowerChar d = [d] := by
  obtain ⟨inner, final, capital⟩ := sigma_settled
  induction cs generalizing before with
  | nil => cases listed
  | cons c rest ih =>
    rw [lowerAfter] at listed
    obtain own | later := List.mem_append.mp listed
    · by_cases sigma : c = 'Σ'
      · rw [if_pos sigma] at own
        split at own
        · rw [List.mem_singleton.mp own]
          exact ⟨by decide, final⟩
        · rw [List.mem_singleton.mp own]
          exact ⟨by decide, inner⟩
      · rw [if_neg sigma] at own
        have settled := lower_settled c d own
        exact ⟨fun same => capital (same ▸ settled), settled⟩
    · exact ih (c :: before) later

theorem lower_after_fixed (before cs : List Char) (settled : ∀ d ∈ cs, d ≠ 'Σ' ∧ lowerChar d = [d]) :
    lowerAfter before cs = cs := by
  induction cs generalizing before with
  | nil => rfl
  | cons c rest ih =>
    obtain ⟨no_sigma, fixed⟩ := settled c (List.mem_cons_self ..)
    rw [lowerAfter, if_neg no_sigma, fixed, ih _ fun d listed => settled d (List.mem_cons_of_mem c listed)]
    rfl

theorem lowercase_chars (s : String) : ∀ d ∈ (lowercase s).toList, d ≠ 'Σ' ∧ lowerChar d = [d] := by
  rw [lowercase, String.toList_ofList]
  exact lower_after_settled [] s.toList

theorem lowercase_settled (s : String) : lowercase (lowercase s) = lowercase s := by
  rw [lowercase, lower_after_fixed [] _ (lowercase_chars s), String.ofList_toList]

end ResourceRoutes.Text
