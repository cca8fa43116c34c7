import ResourceRoutes.Proofs.Decimal
import ResourceRoutes.Text.Numeral
set_option autoImplicit false

namespace ResourceRoutes.Text

inductive Spells (n : Nat) : List Char → Prop where
  | unsigned (zeros : Nat) : Spells n (List.replicate zeros '0' ++ Nat.toDigits 10 n)
  | signed (zeros : Nat) : Spells n ('+' :: (List.replicate zeros '0' ++ Nat.toDigits 10 n))

theorem padded_char (zeros n : Nat) (c : Char) (member : c ∈ List.replicate zeros '0' ++ Nat.toDigits 10 n) :
    c.isDigit = true := by
  cases List.mem_append.mp member with
  | inl zero =>
    rw [List.eq_of_mem_replicate zero]
    rfl
  | inr digit => exact Decimal.digits_are_digits n c digit

theorem padded_present (zeros n : Nat) : List.replicate zeros '0' ++ Nat.toDigits 10 n ≠ [] := by
  obtain ⟨first, rest, split, -⟩ := Decimal.digits_start n
  simp [split]

def unsignedPart (cs : List Char) : List Char := if cs.head? = some '+' then cs.tail else cs

theorem unsigned_spells (n : Nat) (cs : List Char) (spelled : Spells n cs) :
    ∃ zeros, unsignedPart cs = List.replicate zeros '0' ++ Nat.toDigits 10 n := by
  cases spelled with
  | signed zeros => exact ⟨zeros, rfl⟩
  | unsigned zeros =>
    refine ⟨zeros, if_neg fun signed => ?_⟩
    have digit := padded_char zeros n '+' (List.mem_of_mem_head? signed)
    cases digit

theorem spells_unsigned (n zeros : Nat) (cs : List Char)
    (padded : unsignedPart cs = List.replicate zeros '0' ++ Nat.toDigits 10 n) : Spells n cs := by
  by_cases signed : cs.head? = some '+'
  · rw [unsignedPart, if_pos signed] at padded
    obtain ⟨rest, split⟩ := List.head?_eq_some_iff.mp signed
    rw [split, List.tail_cons] at padded
    rw [split, padded]
    exact .signed zeros
  · rw [unsignedPart, if_neg signed] at padded
    rw [padded]
    exact .unsigned zeros

theorem spells_iff (n : Nat) (cs : List Char) : Spells n cs ↔
    unsignedPart cs ≠ [] ∧ (∀ c ∈ unsignedPart cs, c.isDigit = true) ∧ Decimal.digitsValue (unsignedPart cs) = n := by
  constructor
  · intro spelled
    obtain ⟨zeros, padded⟩ := unsigned_spells n cs spelled
    rw [padded]
    exact ⟨padded_present zeros n, padded_char zeros n, Decimal.padded_value zeros n⟩
  · rintro ⟨present, digits, rfl⟩
    obtain ⟨zeros, padded⟩ := Decimal.padded_digits (unsignedPart cs) present digits
    exact spells_unsigned _ zeros cs padded

theorem numeral_iff (cs : List Char) (n : Nat) : numeral? cs = some n ↔ Spells n cs ∧ n < natBound := by
  have opened : numeral? cs = if !(unsignedPart cs).isEmpty && (unsignedPart cs).all Char.isDigit
      && Decimal.digitsValue (unsignedPart cs) < natBound then some (Decimal.digitsValue (unsignedPart cs)) else none := rfl
  rw [opened, Option.ite_none_right_eq_some, spells_iff]
  simp only [Bool.and_eq_true, Bool.not_eq_true', List.isEmpty_eq_false_iff, List.all_eq_true, decide_eq_true_eq,
    Option.some.injEq]
  constructor
  · rintro ⟨⟨⟨present, digits⟩, small⟩, rfl⟩
    exact ⟨⟨present, digits, rfl⟩, small⟩
  · rintro ⟨⟨present, digits, rfl⟩, small⟩
    exact ⟨⟨⟨present, digits⟩, small⟩, rfl⟩

theorem spells_same (n m : Nat) (cs : List Char) (first : Spells n cs) (second : Spells m cs) : n = m :=
  ((spells_iff n cs).mp first).2.2.symm.trans ((spells_iff m cs).mp second).2.2

end ResourceRoutes.Text
