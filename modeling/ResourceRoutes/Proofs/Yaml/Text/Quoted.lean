import Mathlib.Tactic.SplitIfs
import ResourceRoutes.Proofs.Yaml.Cursor
set_option autoImplicit false

namespace ResourceRoutes.Yaml.Text

theorem read_quoted_char (quote : Char) (fuel : Nat) (at' : Cursor) (text : List Char) (c : Char) (rest : List Char)
    (here : at'.rest = c :: rest) (beyond : 0 < at'.column) (blank : isBlank c = false) (unbroken : isBreak c = false)
    (unquoted : c ≠ quote) (unescaped : ¬(c = '\\' ∧ quote = '"')) :
    quotedText? quote (fuel + 1) at' text = quotedText? quote fuel (at'.skip 1) (text ++ [c]) := by
  rw [quotedText?, here]
  simp only [Cursor.document_mark_beyond at' beyond, blank, unbroken, Bool.or_self, Bool.false_eq_true, if_false,
    unquoted, unescaped]

theorem read_closing_quote (quote : Char) (fuel : Nat) (at' : Cursor) (text tail : List Char)
    (here : at'.rest = quote :: tail) (beyond : 0 < at'.column) (blank : isBlank quote = false)
    (unbroken : isBreak quote = false) (single : quote = '\'' → tail.head? ≠ some '\'') :
    quotedText? quote (fuel + 1) at' text = some (text, at'.skip 1) := by
  have closes : ¬(quote = '\'' ∧ tail.head? = some '\'') := fun both => single both.1 both.2
  rw [quotedText?, here]
  simp only [Cursor.document_mark_beyond at' beyond, blank, unbroken, Bool.or_self, Bool.false_eq_true, if_false,
    if_true, closes]

theorem read_quoted_gap (quote : Char) (fuel : Nat) (at' next : Cursor) (text : List Char) (gap : Gap) (c : Char)
    (rest : List Char) (here : at'.rest = c :: rest) (beyond : 0 < at'.column)
    (gapped : isBlank c = true ∨ isBreak c = true) (read : Gap.read? 0 at'.rest.length at' {} = some (gap, next)) :
    quotedText? quote (fuel + 1) at' text = quotedText? quote fuel next (text ++ gap.text) := by
  have both : (isBlank c || isBreak c) = true := by simpa using gapped
  have gap_read : Gap.readQuoted at' {} = (gap, next) := by rw [Gap.readQuoted, read, Option.getD_some]
  rw [quotedText?]
  split
  · rename_i empty
    rw [here] at empty
    cases empty
  · rename_i d tail same
    rw [here] at same
    cases same
    simp only [Cursor.document_mark_beyond at' beyond, both, Bool.false_eq_true, if_false, if_true, gap_read]

-- Blanks or breaks that stand in front of the next word and are not read yet, as a gap is read as a whole.
-- Breaks are followed by indentation.
inductive Pending : List Char → Bool → Bool → Prop where
  | blanks (n : Nat) : Pending (spaces n) (decide (0 < n)) false
  | breaks (c : Char) (others : List Char) (first : isPlainBreak c = true) (kept : c ≠ '\n')
      (plain : ∀ d ∈ others, isPlainBreak d = true) : Pending (c :: others) false true

theorem read_pending (quote : Char) (indent fuel : Nat) (at' : Cursor) (text run tail : List Char)
    (spaced broken : Bool) (pending : Pending run spaced broken)
    (here : at'.rest = run ++ ((if broken then spaces indent else []) ++ tail)) (settled : Settled tail)
    (beyond : 0 < at'.column) (indented : 0 < indent) (enough : at'.rest.length ≤ fuel) :
    ∃ next left, quotedText? quote fuel at' text = quotedText? quote left next (text ++ run) ∧
      next.rest = tail ∧ tail.length ≤ left ∧ 0 < next.column ∧ at'.line ≤ next.line := by
  have length := congrArg List.length here
  simp only [List.length_append] at length
  cases pending with
  | blanks n =>
    have there : at'.rest = spaces n ++ tail := here
    rw [spaces_length] at length
    cases n with
    | zero =>
      exact ⟨at', fuel, by simp [spaces], there, by omega, beyond, Nat.le_refl _⟩
    | succ n =>
      obtain ⟨fuel, rfl⟩ : ∃ more, fuel = more + 1 := ⟨fuel - 1, by omega⟩
      have read := Gap.read_spaces 0 (n + 1) at'.rest.length at' [] tail there settled (by omega)
      have first : at'.rest = ' ' :: (spaces n ++ tail) := by rw [there, spaces_succ]
      refine ⟨at'.skip (n + 1), fuel, ?_, Cursor.skip_rest at' _ _ _ there (spaces_length _).symm, by omega,
        by rw [Cursor.skip_column]; omega, Nat.le_refl _⟩
      rw [read_quoted_gap quote fuel at' _ text _ ' ' _ first beyond (.inl rfl) read]
      rfl
  | breaks c others first kept plain =>
    simp only [if_true, List.length_cons, spaces_length] at length
    obtain ⟨fuel, rfl⟩ : ∃ more, fuel = more + 1 := ⟨fuel - 1, by omega⟩
    have there : at'.rest = c :: (others ++ spaces indent ++ tail) := by simpa using here
    obtain ⟨stop, read, rest, column, line⟩ := Gap.read_line_end 0 indent at'.rest.length at' c others tail there first
      plain settled (by omega)
    refine ⟨stop, fuel, ?_, rest, by omega, by omega, by omega⟩
    rw [read_quoted_gap quote fuel at' stop text _ c _ there beyond (.inr (plain_break_breaks c first)) read]
    simp [Gap.text, kept]

def Separate (spaced broken : Bool) : List Char → Prop
  | [] => True
  | c :: cs => (spaced = true → isBreak c = false) ∧ (broken = true → c ≠ ' ') ∧ Separate (c == ' ') (isBreak c) cs

theorem separate_of_pairs (a : Char) (cs : List Char) (breaks : hasPair isBreak isSpace (a :: cs) = false)
    (blanks : hasPair isSpace isBreak (a :: cs) = false) : Separate (a == ' ') (isBreak a) cs := by
  induction cs generalizing a with
  | nil => trivial
  | cons c cs ih =>
    simp only [hasPair, Bool.or_eq_false_iff, Bool.and_eq_false_imp] at breaks blanks
    refine ⟨blanks.1, fun broken => ?_, ih c breaks.2 blanks.2⟩
    simpa [isSpace] using breaks.1 broken

structure Single (cs : List Char) : Prop where
  printable : ∀ c ∈ cs, isPrintable c = true
  unfed : ∀ c ∈ cs, c ≠ '\n'
  separate : Separate false false cs

theorem single_of_fits (cs : List Char) (fits : fitsSingle cs = true) (unfed : cs.contains '\n' = false) : Single cs := by
  simp only [fitsSingle, Bool.and_eq_true, Bool.not_eq_true', List.all_eq_true] at fits
  obtain ⟨⟨printable, breaks⟩, blanks⟩ := fits
  refine ⟨printable, fun c member same => ?_, ?_⟩
  · subst same
    simp [member] at unfed
  · cases cs with
    | nil => trivial
    | cons c cs => exact ⟨by simp, by simp, separate_of_pairs c cs breaks blanks⟩

theorem read_quote_pair (fuel : Nat) (at' : Cursor) (text rest : List Char) (here : at'.rest = '\'' :: '\'' :: rest)
    (beyond : 0 < at'.column) :
    quotedText? '\'' (fuel + 1) at' text = quotedText? '\'' fuel (at'.skip 2) (text ++ ['\'']) := by
  rw [quotedText?, here]
  simp [Cursor.document_mark_beyond at' beyond, isBlank, isBreak]

theorem read_doubled (fuel : Nat) (at' : Cursor) (text : List Char) (c : Char) (rest : List Char)
    (here : at'.rest = doubleQuote c ++ rest) (beyond : 0 < at'.column) (blank : isBlank c = false)
    (unbroken : isBreak c = false) :
    quotedText? '\'' (fuel + 1) at' text = quotedText? '\'' fuel (at'.skip (doubleQuote c).length) (text ++ [c]) := by
  by_cases quote : c = '\''
  · subst quote
    exact read_quote_pair fuel at' text rest here beyond
  · rw [doubleQuote, if_neg quote] at here ⊢
    exact read_quoted_char '\'' fuel at' text c rest here beyond blank unbroken quote (by simp)

theorem indent_doubled (indent : Nat) (broken : Bool) (c : Char) (rest : List Char) (unbroken : isBreak c = false) :
    indentAfterBreaks indent broken (doubleQuote c ++ rest) =
      (if broken then spaces indent else []) ++ (doubleQuote c ++ indentAfterBreaks indent false rest) := by
  unfold doubleQuote
  split <;> simp [indentAfterBreaks, unbroken]
  simp_all

theorem doubled_settled (c : Char) (rest : List Char) (blank : isBlank c = false) (unbroken : isBreak c = false) :
    Settled (doubleQuote c ++ rest) := by
  unfold doubleQuote
  split
  · exact settled_cons _ _ rfl rfl
  · exact settled_cons c rest blank unbroken

theorem doubled_break (c : Char) (breaks : isBreak c = true) : doubleQuote c = [c] := by
  refine if_neg ?_
  rintro rfl
  exact absurd breaks (by decide)

theorem pending_break (run : List Char) (spaced broken : Bool) (c : Char) (pending : Pending run spaced broken)
    (apart : spaced = false) (plain : isPlainBreak c = true) (unfed : c ≠ '\n') : Pending (run ++ [c]) false true := by
  cases pending with
  | breaks first others plain_first kept plain_others =>
    refine .breaks first (others ++ [c]) plain_first kept fun d member => ?_
    rcases List.mem_append.mp member with member | member
    · exact plain_others d member
    · rw [List.mem_singleton.mp member]
      exact plain
  | blanks n =>
    cases n with
    | zero => exact .breaks c [] plain unfed (by simp)
    | succ n => cases apart

theorem read_pending_char (indent fuel : Nat) (at' : Cursor) (text run : List Char) (c : Char) (rest : List Char)
    (spaced broken : Bool) (pending : Pending run spaced broken)
    (here : at'.rest = run ++ ((if broken then spaces indent else []) ++ (doubleQuote c ++ rest)))
    (blank : isBlank c = false) (unbroken : isBreak c = false) (beyond : 0 < at'.column) (indented : 0 < indent)
    (enough : at'.rest.length ≤ fuel) :
    ∃ next left, quotedText? '\'' fuel at' text = quotedText? '\'' left next (text ++ run ++ [c]) ∧
      next.rest = rest ∧ rest.length ≤ left ∧ 0 < next.column ∧ at'.line ≤ next.line := by
  obtain ⟨next, left, read, starts, length, column, line⟩ := read_pending '\'' indent fuel at' text run _ spaced broken
    pending here (doubled_settled c rest blank unbroken) beyond indented enough
  have positive : 0 < (doubleQuote c).length := by
    unfold doubleQuote
    split <;> simp
  rw [List.length_append] at length
  obtain ⟨left, rfl⟩ : ∃ more, left = more + 1 := ⟨left - 1, by omega⟩
  refine ⟨next.skip (doubleQuote c).length, left, ?_, Cursor.skip_rest next _ _ _ starts rfl, by omega,
    by rw [Cursor.skip_column]; omega, line⟩
  rw [read, read_doubled left next _ c rest starts column blank unbroken]

theorem read_single (indent : Nat) (cs tail : List Char) (indented : 0 < indent) (single : tail.head? ≠ some '\'')
    (run : List Char) (spaced broken : Bool) (fuel : Nat) (at' : Cursor) (text : List Char)
    (pending : Pending run spaced broken)
    (here : at'.rest = run ++ (indentAfterBreaks indent broken (cs.flatMap doubleQuote) ++
      ((if endsBroken broken cs then spaces indent else []) ++ '\'' :: tail)))
    (printable : ∀ c ∈ cs, isPrintable c = true) (unfed : ∀ c ∈ cs, c ≠ '\n')
    (separate : Separate spaced broken cs) (beyond : 0 < at'.column) (enough : at'.rest.length ≤ fuel) :
    ∃ stop, quotedText? '\'' fuel at' text = some (text ++ run ++ cs, stop) ∧ stop.rest = tail ∧
      at'.line ≤ stop.line := by
  induction cs generalizing run spaced broken fuel at' text with
  | nil =>
    obtain ⟨next, left, read, rest, length, column, line⟩ := read_pending '\'' indent fuel at' text run
      ('\'' :: tail) spaced broken pending here
      (settled_cons _ _ rfl rfl) beyond indented enough
    obtain ⟨left, rfl⟩ : ∃ more, left = more + 1 := ⟨left - 1, by simp at length; omega⟩
    refine ⟨next.skip 1, ?_, Cursor.skip_rest next ['\''] tail 1 rest rfl, line⟩
    rw [read, read_closing_quote '\'' left next _ tail rest column rfl rfl fun _ => single, List.append_nil]
  | cons c cs ih =>
    obtain ⟨apart, unspaced, separate⟩ := separate
    have printable_rest : ∀ d ∈ cs, isPrintable d = true := fun d member => printable d (List.mem_cons_of_mem _ member)
    have unfed_rest : ∀ d ∈ cs, d ≠ '\n' := fun d member => unfed d (List.mem_cons_of_mem _ member)
    rw [List.flatMap_cons, endsBroken] at here
    by_cases space : c = ' '
    · subst space
      -- one more blank: no break can be pending
      cases pending with
      | breaks => exact absurd rfl (unspaced rfl)
      | blanks n =>
        obtain ⟨stop, read, rest, line⟩ := ih (spaces (n + 1)) true false fuel at' text (.blanks (n + 1))
          (by simpa [doubleQuote, indentAfterBreaks, isBreak, spaces_snoc] using here) printable_rest unfed_rest
          separate beyond enough
        exact ⟨stop, by rw [read, List.append_assoc, spaces_snoc, ← List.append_assoc], rest, line⟩
    · by_cases solid : isBreak c = true
      · have plain := plain_break c (printable c (List.mem_cons_self ..)) solid
        have unspaced : spaced = false := Bool.eq_false_iff.mpr fun before => absurd solid (by simp [apart before])
        have extended := pending_break run spaced broken c pending unspaced plain (unfed c (List.mem_cons_self ..))
        rw [doubled_break c solid, solid] at here
        rw [solid, beq_false_of_ne space] at separate
        obtain ⟨stop, read, rest, line⟩ := ih (run ++ [c]) false true fuel at' text extended
          (by simpa [indentAfterBreaks, solid] using here) printable_rest unfed_rest separate beyond enough
        exact ⟨stop, by rw [read]; simp, rest, line⟩
      · have solid : isBreak c = false := by simpa using solid
        have blank := printable_blank c (printable c (List.mem_cons_self ..)) space
        rw [indent_doubled indent broken c _ solid, solid] at here
        rw [solid, beq_false_of_ne space] at separate
        simp only [List.append_assoc] at here
        obtain ⟨next, left, read, there, length, column, line⟩ := read_pending_char indent fuel at' text run c _ spaced
          broken pending here blank solid beyond indented enough
        obtain ⟨stop, following, final, lines⟩ := ih [] false false left next (text ++ run ++ [c]) (.blanks 0) there
          printable_rest unfed_rest separate column (by rw [there]; exact length)
        refine ⟨stop, ?_, final, Nat.le_trans line lines⟩
        rw [read, following]
        simp

theorem read_single_quoted (indent : Nat) (cs tail : List Char) (at' : Cursor)
    (here : at'.rest = singleQuoted indent cs ++ tail) (fits : Single cs) (single : tail.head? ≠ some '\'')
    (indented : 0 < indent) :
    ∃ stop, quotedText? '\'' at'.rest.length (at'.skip 1) [] = some (cs, stop) ∧ stop.rest = tail ∧
      at'.line ≤ stop.line := by
  have there : (at'.skip 1).rest = indentAfterBreaks indent false (cs.flatMap doubleQuote) ++
      ((if endsBroken false cs then spaces indent else []) ++ '\'' :: tail) := by
    refine Cursor.skip_rest at' ['\''] _ 1 ?_ rfl
    rw [here, singleQuoted, ends_broken]
    cases cs.getLast? <;> simp
  have length : at'.rest.length = (at'.skip 1).rest.length + 1 := by
    rw [there, here, singleQuoted, ends_broken]
    cases cs.getLast? <;> simp
  obtain ⟨stop, read, rest, line⟩ := read_single indent cs tail indented single [] false false at'.rest.length
    (at'.skip 1) [] (.blanks 0) there fits.printable fits.unfed fits.separate (by rw [Cursor.skip_column]; omega)
    (by omega)
  exact ⟨stop, read, rest, line⟩

theorem hex_value_digit (n : Nat) (bound : n < 16) : hexValue? (hexDigit n) = some n := by
  revert n
  decide

theorem hex_digits_length (width n : Nat) : (hexDigits width n).length = width := by
  induction width generalizing n with
  | zero => rfl
  | succ width ih => simp [hexDigits, ih]

theorem hex_digits_values (width n : Nat) :
    ∃ values, (hexDigits width n).mapM hexValue? = some values ∧
      values.foldl (fun n v => 16 * n + v) 0 = n % Nat.pow 16 width := by
  induction width generalizing n with
  | zero => exact ⟨[], rfl, (Nat.mod_one n).symm⟩
  | succ width ih =>
    obtain ⟨values, read, value⟩ := ih (n / 16)
    refine ⟨values ++ [n % 16], ?_, ?_⟩
    · have last := hex_value_digit (n % 16) (by omega)
      simp [hexDigits, List.mapM_append, read, last]
    · have power : Nat.pow 16 (width + 1) = 16 * Nat.pow 16 width := Nat.mul_comm _ _
      rw [List.foldl_append, value, power, Nat.mod_mul]
      exact Nat.add_comm _ _

theorem code_point_digits (width : Nat) (c : Char) (bound : c.toNat < Nat.pow 16 width) :
    codePoint? (hexDigits width c.toNat) = some c := by
  obtain ⟨values, read, value⟩ := hex_digits_values width c.toNat
  have valid : c.toNat.isValidChar := c.valid
  rw [Nat.mod_eq_of_lt bound] at value
  simp only [codePoint?, read, Option.bind_eq_bind, Option.bind_some, value, if_pos valid, Char.ofNat_toNat]

theorem escape_code (mark : Char) (width : Nat) (c : Char) (rest : List Char) (marked : codeLength? mark = some width)
    (bound : c.toNat < Nat.pow 16 width) : escape? (mark :: (hexDigits width c.toNat ++ rest)) = some (c, width + 1) := by
  have digits : (hexDigits width c.toNat ++ rest).take width = hexDigits width c.toNat := by
    rw [List.take_append_of_le_length (Nat.le_of_eq (hex_digits_length ..).symm),
      List.take_of_length_le (Nat.le_of_eq (hex_digits_length ..))]
  simp only [escape?, marked, digits, hex_digits_length, if_true, code_point_digits width c bound, Option.map_some]

theorem read_escape (fuel width : Nat) (at' : Cursor) (text : List Char) (mark c : Char) (rest : List Char)
    (here : at'.rest = '\\' :: mark :: rest) (beyond : 0 < at'.column) (unbroken : isBreak mark = false)
    (known : escape? (mark :: rest) = some (c, width)) :
    quotedText? '"' (fuel + 1) at' text = quotedText? '"' fuel (at'.skip (width + 1)) (text ++ [c]) := by
  rw [quotedText?, here]
  simp [Cursor.document_mark_beyond at' beyond, isBlank, isBreak, known]
  simp_all [isBreak]

theorem unlettered_unbroken (c : Char) (printable : isPrintable c = true) (unlettered : escapeLetter? c = none) :
    isBreak c = false := by
  cases breaks : isBreak c with
  | false => rfl
  | true =>
    have plain := plain_break c printable breaks
    simp only [isPlainBreak, Bool.or_eq_true, beq_iff_eq] at plain
    rcases plain with (rfl | rfl) | rfl <;> cases unlettered

theorem read_escaped_char (fuel : Nat) (at' : Cursor) (text : List Char) (c : Char) (rest : List Char)
    (here : at'.rest = escapeChar c ++ rest) (beyond : 0 < at'.column) (other : c ≠ ' ') :
    quotedText? '"' (fuel + 1) at' text = quotedText? '"' fuel (at'.skip (escapeChar c).length) (text ++ [c]) := by
  unfold escapeChar at here ⊢
  split at here
  · rename_i letter known
    refine read_escape fuel 1 at' text letter c rest here beyond ?_ ?_
    all_goals
      unfold escapeLetter? at known
      split at known <;> cases known <;> rfl
  · rename_i unlettered
    split_ifs at here ⊢ with printable octet short
    · refine read_quoted_char '"' fuel at' text c rest here beyond (printable_blank c printable other)
        (unlettered_unbroken c printable unlettered) ?_ ?_
      · rintro rfl
        cases unlettered
      · rintro ⟨rfl, -⟩
        cases unlettered
    · have read := escape_code 'x' 2 c rest rfl (by show c.toNat < 0x100; omega)
      simpa [hex_digits_length] using read_escape fuel 3 at' text 'x' c _ here beyond rfl read
    · have read := escape_code 'u' 4 c rest rfl (by show c.toNat < 0x10000; omega)
      simpa [hex_digits_length] using read_escape fuel 5 at' text 'u' c _ here beyond rfl read
    · have bound : c.toNat < 0x110000 := by
        have valid := c.valid
        simp only [UInt32.isValidChar, Nat.isValidChar] at valid
        have same : c.val.toNat = c.toNat := rfl
        omega
      have read := escape_code 'U' 8 c rest rfl (by show c.toNat < 0x100000000; omega)
      simpa [hex_digits_length] using read_escape fuel 9 at' text 'U' c _ here beyond rfl read

theorem escaped_settled (c : Char) (rest : List Char) (other : c ≠ ' ') : Settled (escapeChar c ++ rest) := by
  unfold escapeChar
  split
  · exact settled_cons _ _ rfl rfl
  · rename_i unlettered
    split_ifs with printable octet short
    · exact settled_cons c rest (printable_blank c printable other) (unlettered_unbroken c printable unlettered)
    all_goals exact settled_cons _ _ rfl rfl

theorem read_double (cs tail : List Char) (n fuel : Nat) (at' : Cursor) (text : List Char)
    (here : at'.rest = spaces n ++ (cs.flatMap escapeChar ++ '"' :: tail)) (beyond : 0 < at'.column)
    (enough : at'.rest.length ≤ fuel) :
    ∃ stop, quotedText? '"' fuel at' text = some (text ++ spaces n ++ cs, stop) ∧ stop.rest = tail ∧
      at'.line ≤ stop.line := by
  -- `n` blanks wait to be read, as a gap is read together with what follows it
  induction cs generalizing n fuel at' text with
  | nil =>
    obtain ⟨next, left, read, rest, length, column, line⟩ := read_pending '"' 1 fuel at' text _ ('"' :: tail) _ false
      (.blanks n) here (settled_cons _ _ rfl rfl) beyond (by omega) enough
    obtain ⟨left, rfl⟩ : ∃ more, left = more + 1 := ⟨left - 1, by simp at length; omega⟩
    refine ⟨next.skip 1, ?_, Cursor.skip_rest next ['"'] tail 1 rest rfl, line⟩
    rw [read, read_closing_quote '"' left next _ tail rest column rfl rfl (by simp), List.append_nil]
  | cons c cs ih =>
    rw [List.flatMap_cons, List.append_assoc] at here
    by_cases space : c = ' '
    · subst space
      have same : escapeChar ' ' = [' '] := rfl
      rw [same, List.singleton_append, ← spaces_snoc] at here
      obtain ⟨stop, read, rest, line⟩ := ih (n + 1) fuel at' text here beyond enough
      exact ⟨stop, by rw [read, List.append_assoc, spaces_snoc, ← List.append_assoc], rest, line⟩
    · obtain ⟨next, left, read, rest, length, column, line⟩ := read_pending '"' 1 fuel at' text _
        (escapeChar c ++ (cs.flatMap escapeChar ++ '"' :: tail)) _ false (.blanks n) here (escaped_settled c _ space) beyond (by omega) enough
      have positive : 0 < (escapeChar c).length := by
        unfold escapeChar
        split
        · simp
        · split_ifs <;> simp
      rw [List.length_append] at length
      obtain ⟨left, rfl⟩ : ∃ more, left = more + 1 := ⟨left - 1, by omega⟩
      have there := Cursor.skip_rest next (escapeChar c) _ _ rest rfl
      obtain ⟨stop, following, final, lines⟩ := ih 0 left (next.skip (escapeChar c).length) (text ++ spaces n ++ [c])
        there (by rw [Cursor.skip_column]; omega) (by rw [there]; omega)
      refine ⟨stop, ?_, final, Nat.le_trans line lines⟩
      rw [read, read_escaped_char left next _ c _ rest column space, following]
      simp [spaces]

theorem read_double_quoted (cs tail : List Char) (at' : Cursor) (here : at'.rest = doubleQuoted cs ++ tail) :
    ∃ stop, quotedText? '"' at'.rest.length (at'.skip 1) [] = some (cs, stop) ∧ stop.rest = tail ∧
      at'.line ≤ stop.line := by
  have there : (at'.skip 1).rest = spaces 0 ++ (cs.flatMap escapeChar ++ '"' :: tail) :=
    Cursor.skip_rest at' ['"'] _ 1 (by simp [here, doubleQuoted, spaces]) rfl
  obtain ⟨stop, read, rest, line⟩ := read_double cs tail 0 at'.rest.length (at'.skip 1) [] there
    (by rw [Cursor.skip_column]; omega) (by rw [there, here]; simp [doubleQuoted, spaces])
  exact ⟨stop, read, rest, line⟩

end ResourceRoutes.Yaml.Text
