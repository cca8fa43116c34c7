import ResourceRoutes.Yaml.Text
import ResourceRoutes.Yaml.Token.Scalar
set_option autoImplicit false

namespace ResourceRoutes.Yaml

open Yaml.Text (spaces isPrintable)

def isPlainBreak (c : Char) : Bool := c == '\n' || c == '\u2028' || c == '\u2029'

theorem plain_break (c : Char) (printable : isPrintable c = true) (breaks : isBreak c = true) :
    isPlainBreak c = true := by
  simp only [isBreak, Bool.or_eq_true, beq_iff_eq] at breaks
  rcases breaks with (((rfl | rfl) | rfl) | rfl) | rfl <;> first | rfl | exact absurd printable (by decide)

theorem plain_break_printable (c : Char) (breaks : isPlainBreak c = true) : isPrintable c = true := by
  simp only [isPlainBreak, Bool.or_eq_true, beq_iff_eq] at breaks
  rcases breaks with (rfl | rfl) | rfl <;> rfl

theorem plain_break_breaks (c : Char) (breaks : isPlainBreak c = true) : isBreak c = true := by
  simp only [isPlainBreak, Bool.or_eq_true, beq_iff_eq] at breaks
  rcases breaks with (rfl | rfl) | rfl <;> rfl

theorem break_not_blank (c : Char) (breaks : isBreak c = true) : isBlank c = false := by
  simp only [isBreak, Bool.or_eq_true, beq_iff_eq] at breaks
  rcases breaks with (((rfl | rfl) | rfl) | rfl) | rfl <;> rfl

theorem printable_blank (c : Char) (printable : isPrintable c = true) (other : c ≠ ' ') : isBlank c = false := by
  have tab : c ≠ '\t' := by
    rintro rfl
    exact absurd printable (by decide)
  simp [isBlank, other, tab]

def Settled (cs : List Char) : Prop := ∀ c ∈ cs.head?, isBlank c = false ∧ isBreak c = false

theorem settled_cons (c : Char) (cs : List Char) (blank : isBlank c = false) (breaks : isBreak c = false) :
    Settled (c :: cs) := by
  intro d first
  cases first
  exact ⟨blank, breaks⟩

theorem gap_follows_append (cs tail : List Char) (gap : gapFollows cs = false) : gapFollows (cs ++ tail) = false := by
  cases cs with
  | nil => cases gap
  | cons c cs => exact gap

def endsBroken (broken : Bool) : List Char → Bool
  | [] => broken
  | c :: cs => endsBroken (isBreak c) cs

theorem ends_broken (broken : Bool) (cs : List Char) : endsBroken broken cs = (cs.getLast?.map isBreak).getD broken := by
  induction cs generalizing broken with
  | nil => rfl
  | cons c cs ih =>
    rw [endsBroken, ih, List.getLast?_cons]
    cases cs.getLast? <;> rfl

theorem spaces_succ (n : Nat) (tail : List Char) : spaces (n + 1) ++ tail = ' ' :: (spaces n ++ tail) := by
  rw [spaces, List.replicate_succ, List.cons_append]
  rfl

theorem spaces_snoc (n : Nat) (tail : List Char) : spaces (n + 1) ++ tail = spaces n ++ ' ' :: tail := by
  rw [spaces, List.replicate_succ', List.append_assoc, spaces]
  rfl

theorem spaces_length (n : Nat) : (spaces n).length = n := List.length_replicate

theorem take_spaces (p : Char → Bool) (n : Nat) (tail : List Char) (space : p ' ' = true)
    (stop : ∀ c ∈ tail.head?, p c = false) : (spaces n ++ tail).takeWhile p = spaces n := by
  induction n with
  | zero =>
    cases tail with
    | nil => rfl
    | cons c tail => simp [spaces, stop c rfl]
  | succ n ih =>
    rw [spaces_succ, List.takeWhile_cons, if_pos space, ih]
    rfl

namespace Cursor

theorem skip_zero (at' : Cursor) : at'.skip 0 = at' := rfl

theorem skip_skip (at' : Cursor) (m n : Nat) : (at'.skip m).skip n = at'.skip (m + n) := by
  simp [skip, List.drop_drop, Nat.add_assoc]

theorem skip_rest (at' : Cursor) (cs tail : List Char) (n : Nat) (rest : at'.rest = cs ++ tail)
    (length : n = cs.length) : (at'.skip n).rest = tail := by
  simp [skip, rest, length]

theorem skip_column (at' : Cursor) (n : Nat) : (at'.skip n).column = at'.column + n := rfl

theorem read_break (at' : Cursor) (c : Char) (rest : List Char) (here : at'.rest = c :: rest)
    (breaks : isPlainBreak c = true) : at'.readBreak = ([c], at'.nextLine rest 1) := by
  simp only [isPlainBreak, Bool.or_eq_true, beq_iff_eq] at breaks
  rcases breaks with (rfl | rfl) | rfl <;> simp [readBreak, here, isBreak]

theorem marks_beyond (at' : Cursor) (c : Char) (beyond : 0 < at'.column) : at'.marksDocument c = false := by
  have column : at'.column ≠ 0 := by omega
  simp [marksDocument, column]

theorem document_mark_beyond (at' : Cursor) (beyond : 0 < at'.column) : at'.atDocumentMark = false := by
  simp [atDocumentMark, marks_beyond, beyond]

end Cursor

namespace Gap

theorem read_stop (least fuel : Nat) (at' : Cursor) (gap : Gap) (settled : Settled at'.rest) :
    read? least fuel at' gap = some (gap, at') := by
  cases fuel with
  | zero => rfl
  | succ fuel =>
    rw [read?]
    split
    · rfl
    · rename_i c rest here
      obtain ⟨blank, breaks⟩ := settled c (by rw [here]; rfl)
      simp [blank, breaks]

theorem read_space (least fuel : Nat) (at' : Cursor) (gap : Gap) (rest : List Char) (here : at'.rest = ' ' :: rest) :
    read? least (fuel + 1) at' gap = read? least fuel (at'.skip 1) (gap.addBlank ' ') := by
  rw [read?, here]
  rfl

theorem read_break (least fuel : Nat) (at' : Cursor) (gap : Gap) (c : Char) (rest : List Char)
    (here : at'.rest = c :: rest) (breaks : isPlainBreak c = true) :
    read? least (fuel + 1) at' gap = read? least fuel (at'.nextLine rest 1) (gap.addBreak [c]) := by
  have broken := plain_break_breaks c breaks
  have blank := break_not_blank c broken
  simp [read?, here, broken, blank, Cursor.read_break at' c rest here breaks]

theorem read_spaces (least n fuel : Nat) (at' : Cursor) (before tail : List Char)
    (here : at'.rest = spaces n ++ tail) (settled : Settled tail) (enough : n ≤ fuel) :
    read? least fuel at' { blanks := before } = some ({ blanks := before ++ spaces n }, at'.skip n) := by
  induction n generalizing fuel at' before with
  | zero =>
    have stop := read_stop least fuel at' { blanks := before } (by rw [here]; exact settled)
    rw [stop, Cursor.skip_zero]
    simp [spaces]
  | succ n ih =>
    obtain ⟨fuel, rfl⟩ : ∃ more, fuel = more + 1 := ⟨fuel - 1, by omega⟩
    rw [spaces_succ] at here
    have next := ih fuel (at'.skip 1) (before ++ [' ']) (Cursor.skip_rest at' [' '] _ 1 here rfl) (by omega)
    rw [read_space least fuel at' _ _ here]
    rw [Cursor.skip_skip, Nat.add_comm 1 n] at next
    refine next.trans ?_
    rw [List.append_assoc]
    rfl

theorem read_indentation (least n fuel : Nat) (at' : Cursor) (gap : Gap) (tail : List Char)
    (here : at'.rest = spaces n ++ tail) (settled : Settled tail) (enough : n ≤ fuel)
    (broken : gap.leading.isSome = true) : read? least fuel at' gap = some (gap, at'.skip n) := by
  induction n generalizing fuel at' with
  | zero => exact read_stop least fuel at' gap (by rw [here]; exact settled)
  | succ n ih =>
    obtain ⟨fuel, rfl⟩ : ∃ more, fuel = more + 1 := ⟨fuel - 1, by omega⟩
    rw [spaces_succ] at here
    have next := ih fuel (at'.skip 1) (Cursor.skip_rest at' [' '] _ 1 here rfl) (by omega)
    have kept : gap.addBlank ' ' = gap := by
      cases leading : gap.leading with
      | none => rw [leading] at broken; cases broken
      | some first => simp [addBlank, leading]
    rw [read_space least fuel at' _ _ here, kept, next, Cursor.skip_skip, Nat.add_comm 1 n]

theorem read_lines (least n fuel : Nat) (at' : Cursor) (gap : Gap) (breaks tail : List Char)
    (here : at'.rest = breaks ++ spaces n ++ tail) (plain : ∀ c ∈ breaks, isPlainBreak c = true)
    (settled : Settled tail) (enough : breaks.length + n ≤ fuel) (start : at'.column = 0)
    (broken : gap.leading.isSome = true) :
    ∃ stop, read? least fuel at' gap = some ({ gap with trailing := gap.trailing ++ breaks }, stop) ∧
      stop.rest = tail ∧ stop.column = n ∧ at'.line ≤ stop.line := by
  induction breaks generalizing fuel at' gap with
  | nil =>
    refine ⟨at'.skip n, ?_, ?_, ?_, Nat.le_refl _⟩
    · rw [read_indentation least n fuel at' gap tail here settled (by simpa using enough) broken]
      simp
    · exact Cursor.skip_rest at' (spaces n) tail n here (spaces_length n).symm
    · rw [Cursor.skip_column, start, Nat.zero_add]
  | cons c breaks ih =>
    simp only [List.length_cons] at enough
    obtain ⟨fuel, rfl⟩ : ∃ more, fuel = more + 1 := ⟨fuel - 1, by omega⟩
    simp only [List.cons_append] at here
    have first := plain c (List.mem_cons_self ..)
    cases leading : gap.leading with
    | none => rw [leading] at broken; cases broken
    | some held =>
      have added : gap.addBreak [c] = { gap with trailing := gap.trailing ++ [c] } := by simp [addBreak, leading]
      obtain ⟨stop, read, rest, column, line⟩ := ih fuel (at'.nextLine _ 1)
        { gap with trailing := gap.trailing ++ [c] } rfl (fun d member => plain d (List.mem_cons_of_mem _ member))
        (by omega) rfl broken
      refine ⟨stop, ?_, rest, column, Nat.le_trans (Nat.le_succ _) line⟩
      rw [read_break least fuel at' gap c _ here first, added, read]
      simp [leading]

theorem read_line_end (least n fuel : Nat) (at' : Cursor) (c : Char) (breaks tail : List Char)
    (here : at'.rest = c :: (breaks ++ spaces n ++ tail)) (first : isPlainBreak c = true)
    (plain : ∀ c ∈ breaks, isPlainBreak c = true) (settled : Settled tail) (enough : breaks.length + n < fuel) :
    ∃ stop, read? least fuel at' {} = some (⟨[], some [c], breaks⟩, stop) ∧
      stop.rest = tail ∧ stop.column = n ∧ at'.line < stop.line := by
  obtain ⟨fuel, rfl⟩ : ∃ more, fuel = more + 1 := ⟨fuel - 1, by omega⟩
  obtain ⟨stop, read, rest, column, line⟩ := read_lines least n fuel (at'.nextLine _ 1) ⟨[], some [c], []⟩ breaks
    tail rfl plain settled (by omega) rfl rfl
  refine ⟨stop, ?_, rest, column, line⟩
  rw [read_break least fuel at' {} c _ here first]
  exact read

end Gap

end ResourceRoutes.Yaml
