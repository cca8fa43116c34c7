import ResourceRoutes.Proofs.Decimal
import ResourceRoutes.Yaml.Printer
set_option autoImplicit false

namespace ResourceRoutes.Yaml.Meaning

theorem digit_value (c : Char) (digit : c.isDigit = true) : digit? 10 c = some (c.toNat - 48) := by
  obtain ⟨low, high⟩ := Decimal.digit_range c digit
  have small : c.toNat - 48 < 10 := by omega
  simp [digit?, digit, small]

theorem number_of_digits (cs : List Char) (present : cs ≠ []) (digits : ∀ c ∈ cs, c.isDigit = true) :
    number? 10 cs = some (Decimal.digitsValue cs) := by
  have values : cs.mapM (digit? 10) = some (cs.map fun c => c.toNat - 48) := by
    clear present
    induction cs with
    | nil => rfl
    | cons c cs ih =>
      obtain ⟨first, others⟩ := List.forall_mem_cons.mp digits
      rw [List.mapM_cons, digit_value c first, ih others]
      rfl
  have some_digit : cs.isEmpty = false := by simpa using present
  simp [number?, some_digit, values, Decimal.digitsValue, List.foldl_map]

theorem unmarked_digits (cs : List Char) (digits : ∀ c ∈ cs, c.isDigit = true) : marked? cs = none := by
  rw [marked?.eq_def]
  split
  · exact absurd (digits 'x' (by simp)) (by decide)
  · exact absurd (digits 'o' (by simp)) (by decide)
  · exact absurd (digits 'b' (by simp)) (by decide)
  · rfl

theorem unsigned_digits (n : Nat) : unsigned? (Nat.toDigits 10 n) = some n := by
  obtain ⟨first, rest, split, zero⟩ := Decimal.digits_start n
  have digits := Decimal.digits_are_digits n
  have value := Decimal.digits_value n
  rw [split] at digits value ⊢
  have leading := digits first (List.mem_cons_self ..)
  have unsigned : first ≠ '+' := by
    rintro rfl
    cases leading
  have positive : first ≠ '-' := by
    rintro rfl
    cases leading
  have unpadded : isZeroPadded (first :: rest) = false := by
    by_cases padded : first = '0'
    · subst padded
      rw [zero rfl]
      rfl
    · simp [isZeroPadded, startsSigned, isSign, unsigned, positive, padded]
  simp [unsigned?, unsigned, unmarked_digits _ digits, unpadded, number_of_digits _ (by simp) digits, value]

theorem flag_text (value : Bool) : flag? (flagText value) = some value := by
  cases value <;> decide

end ResourceRoutes.Yaml.Meaning
