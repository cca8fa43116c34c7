import Mathlib.Tactic.SplitIfs
import ResourceRoutes.Json
set_option autoImplicit false

namespace ResourceRoutes.Json.Text

theorem hex_value_digit (n : Nat) (bound : n < 16) : hexValue? (hexDigit n) = some n := by
  revert n
  decide

theorem control_unit (n : Nat) (bound : n < 0x20) :
    unit? '0' '0' (hexDigit (n / 16)) (hexDigit (n % 16)) = some n := by
  have high := hex_value_digit (n / 16) (by omega)
  have low := hex_value_digit (n % 16) (by omega)
  have zero : hexValue? '0' = some 0 := rfl
  simp only [unit?, zero, high, low, Option.bind_eq_bind, Option.bind_some, Option.pure_def, Option.some.injEq]
  omega

theorem unescape_unit (a b c d : Char) (code : Nat) (rest : List Char) (read : unit? a b c d = some code)
    (high : isHighSurrogate code = false) (low : isLowSurrogate code = false) :
    unescape? ('\\' :: 'u' :: a :: b :: c :: d :: rest) = (unescape? rest).map (Char.ofNat code :: ·) := by
  rw [unescape?.eq_def]
  split
  · contradiction
  · -- another escaped code unit follows
    rename_i e f g h tail same
    simp only [List.cons.injEq, true_and] at same
    obtain ⟨rfl, rfl, rfl, rfl, rfl⟩ := same
    simp only [read, high, low, Option.bind_eq_bind, Option.bind_some, Bool.false_eq_true, if_false]
    cases unescape? ('\\' :: 'u' :: e :: f :: g :: h :: tail) <;> rfl
  · rename_i same
    simp only [List.cons.injEq, true_and] at same
    obtain ⟨rfl, rfl, rfl, rfl, rfl⟩ := same
    simp only [read, high, low, Option.bind_eq_bind, Option.bind_some, Bool.or_self, Bool.false_eq_true, if_false]
    cases unescape? rest <;> rfl
  · rename_i other same
    cases same
    exact absurd rfl (other _ _ _ _ _ rfl)
  · rename_i other same
    cases same
    exact absurd rfl (other _ _ rfl)

theorem unescape_letter (letter c : Char) (rest : List Char) (known : letter? letter = some c)
    (other : letter ≠ 'u') : unescape? ('\\' :: letter :: rest) = (unescape? rest).map (c :: ·) := by
  rw [unescape?.eq_def]
  split
  · contradiction
  · rename_i same
    cases same
    exact absurd rfl other
  · rename_i same
    cases same
    exact absurd rfl other
  · rename_i same
    cases same
    simp only [known, Option.bind_eq_bind, Option.bind_some]
    cases unescape? rest <;> rfl
  · rename_i none same
    cases same
    exact absurd rfl (none _ _ rfl)

theorem unescape_plain (c : Char) (rest : List Char) (plain : c ≠ '\\') :
    unescape? (c :: rest) = (unescape? rest).map (c :: ·) := by
  rw [unescape?.eq_def]
  split <;> simp_all

theorem unescape_char (c : Char) (rest : List Char) :
    unescape? (escapeChar c ++ rest) = (unescape? rest).map (c :: ·) := by
  unfold escapeChar
  split_ifs with quote backslash feed ret tab back form control
  · subst quote; exact unescape_letter _ _ _ rfl (by decide)
  · subst backslash; exact unescape_letter _ _ _ rfl (by decide)
  · subst feed; exact unescape_letter _ _ _ rfl (by decide)
  · subst ret; exact unescape_letter _ _ _ rfl (by decide)
  · subst tab; exact unescape_letter _ _ _ rfl (by decide)
  · subst back; exact unescape_letter _ _ _ rfl (by decide)
  · subst form; exact unescape_letter _ _ _ rfl (by decide)
  · have read := unescape_unit _ _ _ _ c.toNat rest (control_unit c.toNat control)
      (by simp [isHighSurrogate]; omega) (by simp [isLowSurrogate]; omega)
    simpa [Char.ofNat_toNat] using read
  · exact unescape_plain c rest backslash

theorem unescape_escape (cs : List Char) : unescape? (escape cs) = some cs := by
  induction cs with
  | nil => rfl
  | cons c cs ih =>
    rw [escape, List.flatMap_cons, unescape_char]
    exact congrArg (Option.map (c :: ·)) ih

end ResourceRoutes.Json.Text
