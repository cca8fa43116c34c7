import ResourceRoutes.Decimal
set_option autoImplicit false

namespace ResourceRoutes.Decimal

theorem digits_value (n : Nat) : digitsValue (Nat.toDigits 10 n) = n :=
  Nat.ofDigitChars_ten_toDigits

theorem digits_are_digits (n : Nat) (c : Char) (member : c ∈ Nat.toDigits 10 n) : c.isDigit = true :=
  Nat.isDigit_of_mem_toDigits (by decide) (by decide) member

theorem digit_range (c : Char) (digit : c.isDigit = true) : 48 ≤ c.toNat ∧ c.toNat ≤ 57 := by
  simpa [Char.isDigit, UInt32.le_iff_toNat_le] using digit

theorem digits_start (n : Nat) : ∃ first rest, Nat.toDigits 10 n = first :: rest ∧ (first = '0' → rest = []) := by
  induction n using Nat.strongRecOn with
  | ind n ih =>
    by_cases small : n < 10
    · exact ⟨_, _, Nat.toDigits_of_lt_base small, fun _ => rfl⟩
    · obtain ⟨first, rest, split, zero⟩ := ih (n / 10) (by omega)
      refine ⟨first, rest ++ [Nat.digitChar (n % 10)], ?_, ?_⟩
      · rw [Nat.toDigits_of_base_le (by decide) (by omega), split, List.cons_append]
      · intro leading
        -- a leading zero would leave nothing but zero in front of the last digit
        have value := digits_value (n / 10)
        rw [split, zero leading, leading] at value
        have none : n / 10 = 0 := value.symm
        omega

theorem digit_char (c : Char) (digit : c.isDigit = true) : Nat.digitChar (c.toNat - 48) = c := by
  obtain ⟨low, high⟩ := digit_range c digit
  apply Char.toNat_inj.mp
  rw [Nat.toNat_digitChar_of_lt_ten (by omega)]
  omega

theorem digits_continue (cs : List Char) (n : Nat) (positive : 0 < n) (digits : ∀ c ∈ cs, c.isDigit = true) :
    Nat.toDigits 10 n ++ cs = Nat.toDigits 10 (cs.foldl (fun n c => 10 * n + (c.toNat - '0'.toNat)) n) := by
  induction cs generalizing n with
  | nil => exact List.append_nil _
  | cons c cs ih =>
    obtain ⟨first, others⟩ := List.forall_mem_cons.mp digits
    obtain ⟨low, high⟩ := digit_range c first
    have small : c.toNat - 48 < 10 := by omega
    have next := Nat.toDigits_append_toDigits (by decide : 1 < 10) positive small
    rw [Nat.toDigits_of_lt_base small, digit_char c first] at next
    calc
      Nat.toDigits 10 n ++ c :: cs = (Nat.toDigits 10 n ++ [c]) ++ cs := by simp
      _ = Nat.toDigits 10 (10 * n + (c.toNat - 48)) ++ cs := by rw [next]
      _ = _ := ih _ (by omega) others

theorem padded_digits (cs : List Char) (present : cs ≠ []) (digits : ∀ c ∈ cs, c.isDigit = true) :
    ∃ zeros, cs = List.replicate zeros '0' ++ Nat.toDigits 10 (digitsValue cs) := by
  induction cs with
  | nil => exact absurd rfl present
  | cons c cs ih =>
    obtain ⟨first, others⟩ := List.forall_mem_cons.mp digits
    by_cases zero : c = '0'
    · subst zero
      cases cs with
      | nil => exact ⟨0, rfl⟩
      | cons d cs =>
        obtain ⟨zeros, padded⟩ := ih (by simp) others
        refine ⟨zeros + 1, ?_⟩
        have same : digitsValue ('0' :: d :: cs) = digitsValue (d :: cs) := rfl
        rw [same, List.replicate_succ, List.cons_append, ← padded]
    · obtain ⟨low, high⟩ := digit_range c first
      have positive : 0 < c.toNat - 48 := by
        have other : c.toNat ≠ 48 := fun same => zero (Char.toNat_inj.mp same)
        omega
      refine ⟨0, ?_⟩
      have continued := digits_continue cs _ positive others
      rw [Nat.toDigits_of_lt_base (by omega), digit_char c first] at continued
      have value : digitsValue (c :: cs) =
          cs.foldl (fun n c => 10 * n + (c.toNat - '0'.toNat)) (c.toNat - 48) := by
        rw [digitsValue, List.foldl_cons, Nat.mul_zero, Nat.zero_add]
        rfl
      rw [value, ← continued]
      rfl

theorem padded_value (zeros n : Nat) : digitsValue (List.replicate zeros '0' ++ Nat.toDigits 10 n) = n := by
  induction zeros with
  | zero => exact digits_value n
  | succ zeros ih =>
    rw [List.replicate_succ, List.cons_append]
    exact ih

end ResourceRoutes.Decimal
