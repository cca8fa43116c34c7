import ResourceRoutes.Proofs.Source.Token.Names
set_option autoImplicit false

namespace ResourceRoutes.Source.Lexeme

-- What is checked of each of some characters. To decide it as a statement on all characters would go through these.
theorem of_each {P : Char → Prop} [DecidablePred P] {cs : List Char} (each : (cs.all fun c => decide (P c)) = true) :
    ∀ c ∈ cs, P c := fun c listed => of_decide_eq_true (List.all_eq_true.mp each c listed)

def edges : List Char := " <>)],:;&([".toList

def isDigitOrLine (c : Char) : Bool := c.isDigit || c == '_'

structure RunOf (p : Char → Bool) (cs run rest : List Char) : Prop where
  split : cs = run ++ rest
  inside : ∀ c ∈ run, p c = true
  stops : ∀ c ∈ rest.head?, p c = false

variable {p : Char → Bool} {cs run rest : List Char}

theorem RunOf.take_while (held : RunOf p cs run rest) : cs.takeWhile p = run := by
  rw [held.split, List.takeWhile_append_of_pos held.inside]
  cases rest with
  | nil => simp
  | cons c rest => simp [held.stops c rfl]

theorem RunOf.drop (held : RunOf p cs run rest) : cs.drop run.length = rest := by
  rw [held.split, List.drop_left]

theorem run_of (p : Char → Bool) (cs : List Char) : ∃ run rest, RunOf p cs run rest := by
  refine ⟨cs.takeWhile p, cs.dropWhile p, List.takeWhile_append_dropWhile.symm, fun c => List.mem_takeWhile_imp, ?_⟩
  intro c first
  have stop := List.head?_dropWhile_not p cs
  rw [first] at stop
  simpa using stop

theorem exponent_signed (lines digits others : List Char) (sign : Char) (signed : sign = '+' ∨ sign = '-')
    (inside : ∀ c ∈ lines, (c == '_') = true) (run : RunOf isDigitOrLine (digits ++ others) digits others) :
    exponent? (lines ++ sign :: (digits ++ others)) =
      if digits.any Char.isDigit then some (lines.length + 1 + digits.length) else none := by
  have lines_run : RunOf (· == '_') (lines ++ sign :: (digits ++ others)) lines (sign :: (digits ++ others)) := by
    refine ⟨rfl, inside, ?_⟩
    intro c first
    cases first
    cases signed with
    | inl plus => rw [plus]; rfl
    | inr minus => rw [minus]; rfl
  have digits_part := run.take_while
  unfold isDigitOrLine at digits_part
  rw [exponent?, lines_run.take_while, lines_run.drop]
  cases signed with
  | inl plus =>
    rw [plus]
    simp only [digits_part]
  | inr minus =>
    rw [minus]
    simp only [digits_part]

theorem exponent_unsigned (lines digits others : List Char) (inside : ∀ c ∈ lines, (c == '_') = true)
    (stops : ∀ c ∈ (digits ++ others).head?, c ≠ '_' ∧ c ≠ '+' ∧ c ≠ '-')
    (run : RunOf isDigitOrLine (digits ++ others) digits others) :
    exponent? (lines ++ (digits ++ others)) =
      if digits.any Char.isDigit then some (lines.length + digits.length) else none := by
  have lines_run : RunOf (· == '_') (lines ++ (digits ++ others)) lines (digits ++ others) := by
    refine ⟨rfl, inside, ?_⟩
    intro c first
    simpa using (stops c first).1
  have digits_part := run.take_while
  unfold isDigitOrLine at digits_part
  rw [exponent?, lines_run.take_while, lines_run.drop]
  dsimp only
  split
  · rename_i same
    exact absurd rfl (stops _ (by rw [same]; rfl)).2.1
  · rename_i same
    exact absurd rfl (stops _ (by rw [same]; rfl)).2.2
  · rw [digits_part]
    rfl

theorem digit_no_edge (c : Char) (digit : isDigitOrLine c = true) : c ∉ edges := by
  intro edge
  have none_is : (edges.all fun c => !isDigitOrLine c) = true := by decide
  have off := List.all_eq_true.mp none_is c edge
  rw [digit] at off
  cases off

def ExponentFront (cs : List Char) (k : Nat) : Prop :=
  ∃ text rest, cs = text ++ rest ∧ text.length = k ∧ (∀ c ∈ text, c ∉ edges) ∧
    (∀ c ∈ rest.head?, isDigitOrLine c = false) ∧
    ∀ after, (∀ c ∈ after.head?, isDigitOrLine c = false) → exponent? (text ++ after) = some k

theorem line_no_edge (c : Char) (line : (c == '_') = true) : c ∉ edges := by
  apply digit_no_edge
  rw [isDigitOrLine, line, Bool.or_true]

theorem exponent_signed_front (lines others : List Char) (sign : Char) (k : Nat) (signed : sign = '+' ∨ sign = '-')
    (inside : ∀ c ∈ lines, (c == '_') = true) (read : exponent? (lines ++ sign :: others) = some k) :
    ExponentFront (lines ++ sign :: others) k := by
  obtain ⟨digits, others, run⟩ := run_of isDigitOrLine others
  obtain rfl := run.split
  rw [exponent_signed lines digits others sign signed inside run] at read
  obtain ⟨some_digit, same⟩ := Option.ite_none_right_eq_some.mp read
  cases same
  refine ⟨lines ++ sign :: digits, others, by simp, by simp; omega, ?_, run.stops, ?_⟩
  · intro c member
    simp only [List.mem_append, List.mem_cons] at member
    obtain line | mark | digit := member
    · exact line_no_edge c (inside c line)
    · cases signed with
      | inl plus => rw [mark, plus]; decide
      | inr minus => rw [mark, minus]; decide
    · exact digit_no_edge c (run.inside c digit)
  · intro after breaks
    rw [List.append_assoc, List.cons_append,
      exponent_signed lines digits after sign signed inside ⟨rfl, run.inside, breaks⟩, if_pos some_digit]

theorem exponent_unsigned_front (lines others : List Char) (k : Nat) (inside : ∀ c ∈ lines, (c == '_') = true)
    (stops : ∀ c ∈ others.head?, c ≠ '_' ∧ c ≠ '+' ∧ c ≠ '-') (read : exponent? (lines ++ others) = some k) :
    ExponentFront (lines ++ others) k := by
  obtain ⟨digits, others, run⟩ := run_of isDigitOrLine others
  obtain rfl := run.split
  rw [exponent_unsigned lines digits others inside stops run] at read
  obtain ⟨some_digit, same⟩ := Option.ite_none_right_eq_some.mp read
  cases same
  refine ⟨lines ++ digits, others, by simp, by simp, ?_, run.stops, ?_⟩
  · intro c member
    cases List.mem_append.mp member with
    | inl line => exact line_no_edge c (inside c line)
    | inr digit => exact digit_no_edge c (run.inside c digit)
  · intro after breaks
    rw [List.append_assoc, exponent_unsigned lines digits after inside _ ⟨rfl, run.inside, breaks⟩, if_pos some_digit]
    intro c first
    cases digits with
    | nil => cases some_digit
    | cons d digits => exact stops c first

theorem exponent_front (cs : List Char) (k : Nat) (read : exponent? cs = some k) : ExponentFront cs k := by
  obtain ⟨lines, others, run⟩ := run_of (· == '_') cs
  obtain rfl := run.split
  by_cases has_sign : ∃ sign later, others = sign :: later ∧ (sign = '+' ∨ sign = '-')
  · obtain ⟨sign, later, rfl, signed⟩ := has_sign
    exact exponent_signed_front lines later sign k signed run.inside read
  · apply exponent_unsigned_front lines others k run.inside _ read
    intro c first
    obtain ⟨later, same⟩ := List.head?_eq_some_iff.mp first
    refine ⟨by simpa using run.stops c first, ?_, ?_⟩
    · intro plus
      exact has_sign ⟨c, later, same, .inl plus⟩
    · intro minus
      exact has_sign ⟨c, later, same, .inr minus⟩

theorem stop_edge (c : Char) (stop : c ∈ " <>)],:;".toList) : c ∈ edges := List.mem_append_left "&([".toList stop

theorem exponent_before_stop (text after rest : List Char) (k : Nat) (stops : Stops after)
    (breaks : ∀ c ∈ rest.head?, isDigitOrLine c = false) (read : exponent? (text ++ after) = some k) :
    exponent? (text ++ rest) = some k ∧ k ≤ text.length := by
  obtain ⟨front, others, same, rfl, inside, others_break, takes⟩ := exponent_front _ k read
  cases List.append_eq_append_iff.mp same with
  | inl longer =>
    obtain ⟨more, rfl, rfl⟩ := longer
    cases more with
    | nil =>
      rw [List.append_nil] at takes ⊢
      exact ⟨takes rest breaks, Nat.le_refl _⟩
    | cons c more => exact absurd (stop_edge c (stops c rfl)) (inside c (by simp))
  | inr shorter =>
    obtain ⟨more, rfl, rfl⟩ := shorter
    rw [List.append_assoc]
    refine ⟨takes _ ?_, by simp⟩
    cases more with
    | nil => exact breaks
    | cons c more => exact others_break

def exponentLength (cs : List Char) : Nat :=
  match cs with
  | 'e' :: rest | 'E' :: rest => ((exponent? rest).map (· + 1)).getD 0
  | _ => 0

theorem exponent_cases (cs : List Char) :
    (∃ c rest, cs = c :: rest ∧ (c = 'e' ∨ c = 'E')) ∨
      (exponentLength cs = 0 ∧ ∀ c ∈ cs.head?, c ≠ 'e' ∧ c ≠ 'E') := by
  unfold exponentLength
  split
  · exact .inl ⟨_, _, rfl, .inl rfl⟩
  · exact .inl ⟨_, _, rfl, .inr rfl⟩
  · rename_i no_small no_capital
    refine .inr ⟨rfl, ?_⟩
    intro c first
    cases cs with
    | nil => cases first
    | cons d rest =>
      cases first
      exact ⟨fun same => no_small rest (by rw [same]), fun same => no_capital rest (by rw [same])⟩

theorem exponent_length_letter (c : Char) (rest : List Char) (letter : c = 'e' ∨ c = 'E') :
    exponentLength (c :: rest) = ((exponent? rest).map (· + 1)).getD 0 := by
  cases letter with
  | inl small => rw [small, exponentLength]
  | inr capital => rw [capital, exponentLength]

theorem exponent_length_other (cs : List Char) (other : ∀ c ∈ cs.head?, c ≠ 'e' ∧ c ≠ 'E') : exponentLength cs = 0 := by
  cases exponent_cases cs with
  | inl lettered =>
    obtain ⟨c, rest, rfl, letter⟩ := lettered
    have no_letter := other c rfl
    cases letter with
    | inl small => exact absurd small no_letter.1
    | inr capital => exact absurd capital no_letter.2
  | inr unlettered => exact unlettered.1

theorem letter_no_edge (c : Char) (letter : c = 'e' ∨ c = 'E') : c ∉ edges := by
  cases letter with
  | inl small => rw [small]; decide
  | inr capital => rw [capital]; decide

theorem stop_other (after : List Char) (stops : Stops after) : ∀ c ∈ after.head?, c ≠ 'e' ∧ c ≠ 'E' := by
  intro c first
  have edge := stop_edge c (stops c first)
  exact ⟨fun small => letter_no_edge c (.inl small) edge, fun capital => letter_no_edge c (.inr capital) edge⟩

theorem within_first (n low high : Nat) (others : List (Nat × Nat)) (above : low ≤ n) (below : n ≤ high) :
    Text.within n ((low, high) :: others) = true := by
  rw [Text.within, if_neg (Nat.not_lt.mpr above), decide_eq_true below, Bool.true_or]

theorem digit_continues (c : Char) (other : Text.isIdentContinue c = false) : isDigitOrLine c = false := by
  rw [Bool.eq_false_iff]
  intro held
  cases (Bool.or_eq_true_iff ..).mp held with
  | inl digit =>
    obtain ⟨above, below⟩ := Char.isDigit_iff_toNat.mp digit
    have goes_on : Text.isIdentContinue c = true := within_first c.toNat 48 57 _ above below
    rw [goes_on] at other
    cases other
  | inr line =>
    rw [beq_iff_eq.mp line] at other
    revert other
    decide

theorem exponent_length_before_stop (text after rest : List Char) (stops : Stops after)
    (breaks : ∀ c ∈ rest.head?, isDigitOrLine c = false) (present : exponentLength (text ++ after) ≠ 0) :
    exponentLength (text ++ rest) = exponentLength (text ++ after) ∧ exponentLength (text ++ after) ≤ text.length := by
  cases exponent_cases (text ++ after) with
  | inr unlettered => exact absurd unlettered.1 present
  | inl lettered =>
    obtain ⟨letter, more, same, is_letter⟩ := lettered
    cases text with
    | nil => exact absurd (exponent_length_other after (stop_other after stops)) present
    | cons c text =>
      rw [List.cons_append, List.cons.injEq] at same
      obtain ⟨rfl, rfl⟩ := same
      simp only [List.cons_append, exponent_length_letter c _ is_letter] at present ⊢
      cases read : exponent? (text ++ after) with
      | none =>
        rw [read] at present
        exact absurd rfl present
      | some k =>
        obtain ⟨read_rest, short⟩ := exponent_before_stop text after rest k stops breaks read
        rw [read_rest]
        exact ⟨rfl, Nat.succ_le_succ short⟩

theorem exponent_length_front (cs : List Char) :
    ∃ text rest, cs = text ++ rest ∧ text.length = exponentLength cs ∧ (∀ c ∈ text, c ∉ edges) ∧
      ∀ suffix others after, rest = suffix ++ others → (∀ c ∈ others.head?, Text.isIdentContinue c = false) →
        Stops after → exponentLength (text ++ (suffix ++ after)) = exponentLength cs := by
  by_cases none_here : exponentLength cs = 0
  · refine ⟨[], cs, rfl, none_here.symm, List.forall_mem_nil _, ?_⟩
    intro suffix others after same ended stops
    rw [none_here, List.nil_append]
    by_contra present
    have breaks (c : Char) (first : c ∈ others.head?) := digit_continues c (ended c first)
    have kept := (exponent_length_before_stop suffix after others stops breaks present).1
    rw [← same, none_here] at kept
    exact present kept.symm
  · obtain ⟨c, rest, rfl, letter⟩ := (exponent_cases cs).resolve_right fun unlettered => none_here unlettered.1
    rw [exponent_length_letter c rest letter] at none_here ⊢
    cases read : exponent? rest with
    | none =>
      rw [read] at none_here
      exact absurd rfl none_here
    | some k =>
      obtain ⟨text, others, rfl, rfl, inside, breaks, takes⟩ := exponent_front rest k read
      refine ⟨c :: text, others, rfl, rfl, List.forall_mem_cons.mpr ⟨letter_no_edge c letter, inside⟩, ?_⟩
      intro suffix last after same ended stops
      rw [List.cons_append, exponent_length_letter _ _ letter, takes]
      cases suffix with
      | nil =>
        intro d first
        exact digit_continues d (stop_continues_nothing d (stops d first))
      | cons d suffix =>
        rw [same] at breaks
        exact breaks

def exponentEnd (n : Nat) (others : List Char) : Option (Option Nat) :=
  match others with
  | 'e' :: rest | 'E' :: rest => some ((exponent? rest).map (n + 1 + ·))
  | _ => none

theorem exponent_end (n : Nat) (others : List Char) :
    (exponentEnd n others).join = if exponentLength others = 0 then none else some (n + exponentLength others) := by
  cases exponent_cases others with
  | inl lettered =>
    obtain ⟨c, rest, rfl, letter⟩ := lettered
    have ends : exponentEnd n (c :: rest) = some ((exponent? rest).map (n + 1 + ·)) := by
      cases letter with
      | inl small => rw [small]; rfl
      | inr capital => rw [capital]; rfl
    rw [ends, exponent_length_letter c rest letter]
    cases exponent? rest with
    | none => rfl
    | some k =>
      simp
      omega
  | inr unlettered =>
    obtain ⟨no_exponent, other⟩ := unlettered
    rw [no_exponent, if_pos rfl]
    cases others with
    | nil => rfl
    | cons d rest => simp [exponentEnd, (other d rfl).1, (other d rfl).2]

theorem starts_of_whole (whole others : List Char) (digit : ∃ c ∈ whole.head?, c.isDigit = true) :
    ∃ c ∈ (whole ++ others).head?, c.isDigit = true := by
  obtain ⟨c, first, digit⟩ := digit
  cases whole with
  | nil => cases first
  | cons d whole => exact ⟨c, first, digit⟩

theorem exponent_end_or (n : Nat) (others : List Char) :
    (match exponentEnd n others with
      | some (some stop) => some stop
      | _ => some n) = some (n + exponentLength others) := by
  have ends := exponent_end n others
  by_cases none_here : exponentLength others = 0
  · rw [if_pos none_here] at ends
    split
    · rename_i found
      rw [found] at ends
      cases ends
    · rw [none_here, Nat.add_zero]
  · rw [if_neg none_here] at ends
    rw [Option.join_eq_some_iff.mp ends]

theorem float_digits_point (whole part others : List Char) (digit : ∃ c ∈ whole.head?, c.isDigit = true)
    (run : RunOf isDigitOrLine (part ++ others) part others) (inside : ∀ c ∈ whole, isDigitOrLine c = true)
    (fits : ∀ c ∈ (part ++ others).head?, c ≠ '.' ∧ Text.isIdentStart c = false) :
    floatDigits? (whole ++ '.' :: (part ++ others)) = some (whole.length + 1 + part.length + exponentLength others) := by
  obtain ⟨c, first, digit⟩ := starts_of_whole whole ('.' :: (part ++ others)) digit
  have run_whole : RunOf isDigitOrLine (whole ++ '.' :: (part ++ others)) whole ('.' :: (part ++ others)) :=
    ⟨rfl, inside, by simp [isDigitOrLine]⟩
  have point : ((part ++ others).head?.any fun c => c == '.' || Text.isIdentStart c) = false := by
    cases same : (part ++ others).head? with
    | none => rfl
    | some c => simp [fits c same]
  have whole_part := run_whole.take_while
  have part_part := run.take_while
  unfold isDigitOrLine at whole_part part_part
  have behind : (whole ++ '.' :: (part ++ others)).drop (whole.length + 1 + part.length) = others := by
    have front : whole ++ '.' :: (part ++ others) = (whole ++ '.' :: part) ++ others := by simp
    rw [front, List.drop_left' (by simp; omega)]
  rw [floatDigits?, first, Option.any_some, digit]
  simp only [Bool.not_true, Bool.false_eq_true, if_false, whole_part, run_whole.drop, part_part, point, behind]
  exact exponent_end_or (whole.length + 1 + part.length) others

theorem float_digits_exponent (whole others : List Char) (digit : ∃ c ∈ whole.head?, c.isDigit = true)
    (run : RunOf isDigitOrLine (whole ++ others) whole others) (no_point : ∀ rest, others ≠ '.' :: rest) :
    floatDigits? (whole ++ others) =
      if exponentLength others = 0 then none else some (whole.length + exponentLength others) := by
  obtain ⟨c, first, digit⟩ := starts_of_whole whole others digit
  have whole_part := run.take_while
  unfold isDigitOrLine at whole_part
  rw [floatDigits?, first, Option.any_some, digit]
  simp only [Bool.not_true, Bool.false_eq_true, if_false, whole_part, run.drop]
  exact exponent_end whole.length others

theorem word_no_edge (c : Char) (word : Text.isIdentStart c ∨ Text.isIdentContinue c) : c ∉ edges := by
  intro edge
  have none_is : (edges.all fun c => !(Text.isIdentStart c || Text.isIdentContinue c)) = true := by decide
  have off := List.all_eq_true.mp none_is c edge
  cases word with
  | inl starts => rw [starts] at off; cases off
  | inr goes_on => rw [goes_on, Bool.or_true] at off; cases off

theorem ident_after_stop (after : List Char) (stops : Stops after) : ident? after = none := by
  cases after with
  | nil => rfl
  | cons c after =>
    rw [ident?, if_neg]
    intro starts
    exact word_no_edge c (.inl starts) (stop_edge c (stops c rfl))

theorem suffix_front (cs : List Char) :
    ∃ suffix others, cs = suffix ++ others ∧ suffix.length = (ident? cs).getD 0 ∧
      (∀ c ∈ suffix, Text.isIdentStart c ∨ Text.isIdentContinue c) ∧
      ∀ after, Stops after → (ident? (suffix ++ after)).getD 0 = suffix.length := by
  cases read : ident? cs with
  | none =>
    refine ⟨[], cs, rfl, rfl, List.forall_mem_nil _, ?_⟩
    intro after stops
    rw [List.nil_append, ident_after_stop after stops]
    rfl
  | some k =>
    have extent := (ident_extent cs k read).2
    have long : (cs.take k).length = k := by rw [List.length_take, Nat.min_eq_left extent]
    refine ⟨cs.take k, cs.drop k, (List.take_append_drop k cs).symm, long, ident_chars cs k read, ?_⟩
    intro after stops
    rw [ident_alone cs after k stops read, long]
    rfl

theorem end_number_none_iff (cs : List Char) (n : Nat) :
    endNumber? cs n = none ↔ ∃ c ∈ (cs.drop n).head?, Text.isIdentContinue c = true ∧ Text.isIdentStart c = false := by
  rw [endNumber?, withSuffix, ← List.drop_drop]
  generalize cs.drop n = rest
  cases rest with
  | nil => simp [ident?]
  | cons c rest =>
    by_cases starts : Text.isIdentStart c = true
    · obtain ⟨run, others, held⟩ := run_of Text.isIdentContinue rest
      have behind : rest[run.length]?.any Text.isIdentContinue = false := by
        rw [← List.head?_drop, held.drop]
        cases first : others.head? with
        | none => rfl
        | some d => exact held.stops d first
      simp [ident?, starts, held.take_while, Nat.add_comm 1, behind]
    · simp [ident?, starts]

theorem end_number_none_kept (front rest after : List Char) (n : Nat) (within : n ≤ front.length)
    (ended : ∀ c ∈ rest.head?, Text.isIdentContinue c = false) (no_end : endNumber? (front ++ rest) n = none) :
    endNumber? (front ++ after) n = none := by
  obtain ⟨c, first, goes_on, no_start⟩ := (end_number_none_iff _ _).mp no_end
  rw [List.drop_append_of_le_length within] at first
  rw [end_number_none_iff, List.drop_append_of_le_length within]
  cases left : front.drop n with
  | nil =>
    rw [left] at first
    rw [ended c first] at goes_on
    cases goes_on
  | cons d more =>
    rw [left] at first
    exact ⟨c, first, goes_on, no_start⟩

theorem end_number_front (front cs : List Char) (n : Nat) (read : endNumber? (front ++ cs) front.length = some n) :
    ∃ suffix others, cs = suffix ++ others ∧ front.length + suffix.length = n ∧
      (∀ c ∈ suffix, Text.isIdentStart c ∨ Text.isIdentContinue c) ∧
      (∀ c ∈ others.head?, Text.isIdentContinue c = false) ∧
      ∀ after, Stops after → endNumber? (front ++ (suffix ++ after)) front.length = some n := by
  obtain ⟨suffix, others, rfl, long, word, takes⟩ := suffix_front cs
  rw [endNumber?, withSuffix, List.drop_left, ← long, ← List.drop_drop, List.drop_left, List.drop_left] at read
  split at read
  · cases read
  · rename_i ended
    cases read
    refine ⟨suffix, others, rfl, rfl, word, ?_, ?_⟩
    · intro c first
      rw [first] at ended
      simpa using ended
    · intro after stops
      have no_more : ¬ after.head?.any Text.isIdentContinue = true := by
        cases first : after.head? with
        | none => simp
        | some c => simp [stop_continues_nothing c (stops c first)]
      rw [endNumber?, withSuffix, List.drop_left, takes after stops, ← List.drop_drop, List.drop_left, List.drop_left,
        if_neg no_more]

-- What the reader takes of `cs` it takes in front of any stop. It has no sign beside which a blank is dropped.
def NumberFront (read : List Char → Option Nat) (cs : List Char) (n : Nat) : Prop :=
  ∃ text rest, cs = text ++ rest ∧ text.length = n ∧ (∃ c ∈ text.head?, c.isDigit = true) ∧ (∀ c ∈ text, c ∉ edges) ∧
    ∀ after, Stops after → read (text ++ after) = some n

theorem head_before_stop (q : Char → Prop) (text rest after : List Char) (held : ∀ c ∈ (text ++ rest).head?, q c)
    (stops : Stops after) (of_stops : ∀ c ∈ " <>)],:;".toList, q c) : ∀ c ∈ (text ++ after).head?, q c := by
  cases text with
  | nil => exact fun c first => of_stops c (stops c first)
  | cons d text => exact held

theorem no_point_before_stop (text rest after : List Char) (no_point : ∀ more, text ++ rest ≠ '.' :: more)
    (stops : Stops after) : ∀ more, text ++ after ≠ '.' :: more := by
  intro more same
  cases text with
  | nil =>
    have no_stop : '.' ∉ " <>)],:;".toList := by decide
    rw [List.nil_append] at same
    exact no_stop (stops '.' (by rw [same]; rfl))
  | cons c text =>
    obtain ⟨rfl, -⟩ := List.cons.inj same
    exact no_point (text ++ rest) rfl

theorem float_starts (cs : List Char) (n : Nat) (read : floatDigits? cs = some n) : ∃ c ∈ cs.head?, c.isDigit = true := by
  cases first : cs.head? with
  | none =>
    rw [floatDigits?, first] at read
    cases read
  | some c =>
    refine ⟨c, rfl, ?_⟩
    by_contra no_digit
    rw [floatDigits?, first] at read
    simp [no_digit] at read

theorem run_starts (whole others : List Char) (run : RunOf isDigitOrLine (whole ++ others) whole others)
    (starts : ∃ c ∈ (whole ++ others).head?, c.isDigit = true) : ∃ c ∈ whole.head?, c.isDigit = true := by
  obtain ⟨c, first, digit⟩ := starts
  cases whole with
  | nil =>
    have stop := run.stops c first
    rw [isDigitOrLine, digit] at stop
    cases stop
  | cons d whole => exact ⟨c, first, digit⟩

theorem float_point_fits (whole rest : List Char) (m : Nat) (run : RunOf isDigitOrLine (whole ++ '.' :: rest) whole ('.' :: rest))
    (read : floatDigits? (whole ++ '.' :: rest) = some m) : ∀ c ∈ rest.head?, c ≠ '.' ∧ Text.isIdentStart c = false := by
  intro c first
  have whole_part := run.take_while
  unfold isDigitOrLine at whole_part
  by_contra unfit
  have point : (rest.head?.any fun c => c == '.' || Text.isIdentStart c) = true := by
    rw [first, Option.any_some]
    by_cases double : c = '.'
    · simp [double]
    · by_cases starts : Text.isIdentStart c = true
      · simp [starts]
      · exact absurd ⟨double, by simpa using starts⟩ unfit
  rw [floatDigits?] at read
  simp only [whole_part, run.drop, point, if_true] at read
  split at read <;> cases read

theorem float_point_front (whole rest : List Char) (m n : Nat) (digit : ∃ c ∈ whole.head?, c.isDigit = true)
    (run : RunOf isDigitOrLine (whole ++ '.' :: rest) whole ('.' :: rest))
    (read : floatDigits? (whole ++ '.' :: rest) = some m) (read_end : endNumber? (whole ++ '.' :: rest) m = some n) :
    NumberFront float? (whole ++ '.' :: rest) n := by
  have fits := float_point_fits whole rest m run read
  obtain ⟨part, rest, run_part⟩ := run_of isDigitOrLine rest
  obtain rfl := run_part.split
  rw [float_digits_point whole part rest digit run_part run.inside fits] at read
  cases read
  obtain ⟨exponent, rest, rfl, long, exponent_inside, exponent_takes⟩ := exponent_length_front rest
  have front (more : List Char) : whole ++ '.' :: (part ++ (exponent ++ more)) = (whole ++ '.' :: part ++ exponent) ++ more := by
    simp
  have front_long : whole.length + 1 + part.length + exponent.length = (whole ++ '.' :: part ++ exponent).length := by
    simp
    omega
  rw [front, ← long, front_long] at read_end
  obtain ⟨suffix, rest, rfl, rfl, word, ended, takes⟩ := end_number_front _ rest n read_end
  refine ⟨whole ++ '.' :: (part ++ (exponent ++ suffix)), rest, by simp, ?_, starts_of_whole whole _ digit, ?_, ?_⟩
  · simp
    omega
  · intro c member
    simp only [List.mem_append, List.mem_cons] at member
    obtain whole_char | rfl | part_char | exponent_char | suffix_char := member
    · exact digit_no_edge c (run.inside c whole_char)
    · decide
    · exact digit_no_edge c (run_part.inside c part_char)
    · exact exponent_inside c exponent_char
    · exact word_no_edge c (word c suffix_char)
  · intro after stops
    have again := exponent_takes suffix rest after rfl ended stops
    have breaks := head_before_stop (isDigitOrLine · = false) (exponent ++ suffix) rest after
      (by simpa using run_part.stops) stops (of_each (by decide))
    have fits_again := head_before_stop (fun c => c ≠ '.' ∧ Text.isIdentStart c = false) (part ++ (exponent ++ suffix)) rest after
      (by simpa using fits) stops (of_each (by decide))
    have run_again : RunOf isDigitOrLine (part ++ (exponent ++ (suffix ++ after))) part (exponent ++ (suffix ++ after)) :=
      ⟨rfl, run_part.inside, by simpa using breaks⟩
    have digits := float_digits_point whole part (exponent ++ (suffix ++ after)) digit run_again run.inside
      (by simpa using fits_again)
    have assoc : whole ++ '.' :: (part ++ (exponent ++ suffix)) ++ after =
        whole ++ '.' :: (part ++ (exponent ++ (suffix ++ after))) := by simp
    rw [assoc, float?, digits, again, ← long, front_long, front]
    exact takes after stops

theorem float_exponent_front (whole others : List Char) (m n : Nat) (digit : ∃ c ∈ whole.head?, c.isDigit = true)
    (run : RunOf isDigitOrLine (whole ++ others) whole others) (no_point : ∀ rest, others ≠ '.' :: rest)
    (read : floatDigits? (whole ++ others) = some m) (read_end : endNumber? (whole ++ others) m = some n) :
    NumberFront float? (whole ++ others) n := by
  rw [float_digits_exponent whole others digit run no_point] at read
  split at read
  · cases read
  rename_i present
  cases read
  obtain ⟨exponent, rest, rfl, long, exponent_inside, exponent_takes⟩ := exponent_length_front others
  rw [← List.append_assoc, ← long, ← List.length_append] at read_end
  obtain ⟨suffix, rest, rfl, rfl, word, ended, takes⟩ := end_number_front _ rest n read_end
  refine ⟨whole ++ (exponent ++ suffix), rest, by simp, by simp; omega, starts_of_whole whole _ digit, ?_, ?_⟩
  · intro c member
    simp only [List.mem_append] at member
    obtain whole_char | exponent_char | suffix_char := member
    · exact digit_no_edge c (run.inside c whole_char)
    · exact exponent_inside c exponent_char
    · exact word_no_edge c (word c suffix_char)
  · intro after stops
    have again := exponent_takes suffix rest after rfl ended stops
    have breaks := head_before_stop (isDigitOrLine · = false) (exponent ++ suffix) rest after
      (by simpa using run.stops) stops (of_each (by decide))
    have run_again : RunOf isDigitOrLine (whole ++ (exponent ++ (suffix ++ after))) whole (exponent ++ (suffix ++ after)) :=
      ⟨rfl, run.inside, by simpa using breaks⟩
    have no_point_again := no_point_before_stop (exponent ++ suffix) rest after (by simpa using no_point) stops
    rw [List.append_assoc] at no_point_again
    have digits := float_digits_exponent whole (exponent ++ (suffix ++ after)) digit run_again no_point_again
    rw [again, if_neg present, ← long, ← List.length_append] at digits
    have assoc : whole ++ (exponent ++ suffix) ++ after = whole ++ (exponent ++ (suffix ++ after)) := by simp
    rw [assoc, float?, digits, ← List.append_assoc]
    exact takes after stops

theorem float_front (cs : List Char) (n : Nat) (read : float? cs = some n) : NumberFront float? cs n := by
  obtain ⟨m, read_digits, read_end⟩ := Option.bind_eq_some_iff.mp read
  obtain ⟨whole, others, run⟩ := run_of isDigitOrLine cs
  obtain rfl := run.split
  have digit := run_starts whole others run (float_starts _ m read_digits)
  by_cases has_point : ∃ rest, others = '.' :: rest
  · obtain ⟨rest, rfl⟩ := has_point
    exact float_point_front whole rest m n digit run read_digits read_end
  · have no_point (rest : List Char) : others ≠ '.' :: rest := fun same => has_point ⟨rest, same⟩
    exact float_exponent_front whole others m n digit run no_point read_digits read_end

theorem hex_continues (c : Char) (hex : isHex c = true) : Text.isIdentContinue c = true := by
  have each : ∀ n < 103, (48 ≤ n ∧ n ≤ 57) ∨ (97 ≤ n ∧ n ≤ 102) ∨ (65 ≤ n ∧ n ≤ 70) →
      Text.within n Text.identifierContinueRanges = true := by decide
  have code : (48 ≤ c.toNat ∧ c.toNat ≤ 57) ∨ (97 ≤ c.toNat ∧ c.toNat ≤ 102) ∨ (65 ≤ c.toNat ∧ c.toNat ≤ 70) := by
    simp only [isHex, Bool.or_eq_true, Bool.and_eq_true, decide_eq_true_eq, Char.isDigit_iff_toNat, or_assoc] at hex
    exact hex
  exact each c.toNat (by omega) code

def DigitsFront (base : Nat) (seen : Bool) (cs : List Char) (n : Nat) : Prop :=
  ∃ text rest, cs = text ++ rest ∧ text.length = n ∧ (∀ c ∈ text, Text.isIdentContinue c = true) ∧
    (seen = true ∨ text ≠ []) ∧
    ∀ suffix others after, rest = suffix ++ others → Stops after →
      digitsOf? base seen (text ++ (suffix ++ after)) = some n

theorem digits_before_stop (base : Nat) (after : List Char) (stops : Stops after) : digitsOf? base true after = some 0 := by
  cases after with
  | nil => rfl
  | cons c after =>
    have other : ∀ c ∈ " <>)],:;".toList, isHex c = false ∧ c.isDigit = false ∧ c ≠ '_' := of_each (by decide)
    obtain ⟨no_hex, no_digit, no_line⟩ := other c (stops c rfl)
    simp [digitsOf?, no_hex, no_digit, no_line]

theorem digits_front_cons (base : Nat) (seen later : Bool) (c : Char) (rest : List Char) (n : Nat)
    (goes_on : Text.isIdentContinue c = true)
    (steps : ∀ rest, digitsOf? base seen (c :: rest) = (digitsOf? base later rest).map (· + 1))
    (tail : DigitsFront base later rest n) : DigitsFront base seen (c :: rest) (n + 1) := by
  obtain ⟨text, rest, rfl, rfl, inside, -, takes⟩ := tail
  refine ⟨c :: text, rest, rfl, rfl, List.forall_mem_cons.mpr ⟨goes_on, inside⟩, .inr (List.cons_ne_nil c text), ?_⟩
  intro suffix others after same stops
  rw [List.cons_append, steps, takes suffix others after same stops]
  rfl

theorem digits_front (base : Nat) (seen : Bool) (cs : List Char) (n : Nat) (read : digitsOf? base seen cs = some n) :
    DigitsFront base seen cs n := by
  fun_induction digitsOf? base seen cs generalizing n with
  -- a decimal digit
  | case1 seen c rest digit fits ih =>
    obtain ⟨m, read_rest, rfl⟩ := Option.map_eq_some_iff.mp read
    apply digits_front_cons base seen true c rest m (hex_continues c (by rw [isHex, digit]; rfl)) _ (ih m read_rest)
    intro rest
    rw [digitsOf?, if_pos digit, if_pos fits]
  -- a letter of base sixteen
  | case3 seen c rest no_digit letter ih =>
    obtain ⟨m, read_rest, rfl⟩ := Option.map_eq_some_iff.mp read
    apply digits_front_cons base seen true c rest m (hex_continues c letter.1) _ (ih m read_rest)
    intro rest
    rw [digitsOf?, if_neg no_digit, if_pos letter]
  -- an underscore
  | case4 seen c rest no_digit no_letter line ih =>
    obtain ⟨m, read_rest, rfl⟩ := Option.map_eq_some_iff.mp read
    apply digits_front_cons base seen seen c rest m (line.1 ▸ by decide) _ (ih m read_rest)
    intro rest
    rw [digitsOf?, if_neg no_digit, if_neg no_letter, if_pos line]
  -- the digits end before the text does
  | case6 seen c rest no_digit no_letter no_line ended =>
    cases read
    have was_seen : seen = true := by simpa using fun unseen => ended (.inr unseen)
    refine ⟨[], c :: rest, rfl, rfl, List.forall_mem_nil _, .inl was_seen, ?_⟩
    intro suffix others after same stops
    cases suffix with
    | nil => exact was_seen ▸ digits_before_stop base after stops
    | cons d suffix =>
      cases same
      rw [List.nil_append, List.cons_append, digitsOf?, if_neg no_digit, if_neg no_letter, if_neg no_line, if_neg ended]
  | case7 =>
    cases read
    refine ⟨[], [], rfl, rfl, List.forall_mem_nil _, .inl rfl, ?_⟩
    intro suffix others after same stops
    cases suffix with
    | nil => exact digits_before_stop base after stops
    | cons d suffix => cases same
  | _ => cases read

def WordFront (read : List Char → Option Nat) (cs : List Char) (n : Nat) : Prop :=
  ∃ text rest, cs = text ++ rest ∧ text.length = n ∧ (∃ c ∈ text.head?, c.isDigit = true) ∧
    (∀ c ∈ text, Text.isIdentStart c ∨ Text.isIdentContinue c) ∧ (∀ c ∈ rest.head?, Text.isIdentContinue c = false) ∧
    ∀ after, Stops after → read (text ++ after) = some n

theorem based_front (base : Nat) (letter : Char) (goes_on : Text.isIdentContinue letter = true)
    (reads : ∀ cs, int? ('0' :: letter :: cs) =
      ((digitsOf? base false cs).map (· + 2)).bind (endNumber? ('0' :: letter :: cs)))
    (cs : List Char) (n : Nat) (read : int? ('0' :: letter :: cs) = some n) : WordFront int? ('0' :: letter :: cs) n := by
  rw [reads] at read
  obtain ⟨m, read_digits, read_end⟩ := Option.bind_eq_some_iff.mp read
  obtain ⟨k, read_run, rfl⟩ := Option.map_eq_some_iff.mp read_digits
  obtain ⟨digits, rest, rfl, rfl, inside, -, takes⟩ := digits_front base false cs k read_run
  obtain ⟨suffix, rest, rfl, rfl, word, ended, takes_end⟩ :=
    end_number_front ('0' :: letter :: digits) rest n read_end
  refine ⟨'0' :: letter :: digits ++ suffix, rest, by simp, by simp; omega, ⟨'0', rfl, rfl⟩, ?_, ended, ?_⟩
  · intro c member
    simp only [List.cons_append, List.mem_cons, List.mem_append] at member
    obtain rfl | rfl | digit | of_suffix := member
    · exact .inr (by decide)
    · exact .inr goes_on
    · exact .inr (inside c digit)
    · exact word c of_suffix
  · intro after stops
    rw [List.cons_append, List.cons_append, List.cons_append, List.cons_append, reads, List.append_assoc,
      takes suffix rest after rfl stops]
    exact takes_end after stops

theorem hex_letter_value (c : Char) (hex : isHex c = true) (letter : c.isDigit = false) : 10 ≤ hexValue c := by
  have code : (97 ≤ c.toNat ∧ c.toNat ≤ 102) ∨ (65 ≤ c.toNat ∧ c.toNat ≤ 70) := by
    simp only [isHex, letter, Bool.false_or, Bool.or_eq_true, Bool.and_eq_true, decide_eq_true_eq] at hex
    exact hex
  rw [hexValue, letter, if_neg (by decide)]
  split
  · rename_i small
    have above : 97 ≤ c.toNat := small
    omega
  · rename_i capital
    have below : ¬ 97 ≤ c.toNat := capital
    omega

theorem decimal_starts (cs : List Char) (n : Nat) (read : digitsOf? 10 false cs = some n) :
    ∃ c ∈ cs.head?, c.isDigit = true := by
  cases cs with
  | nil => cases read
  | cons c cs =>
    refine ⟨c, rfl, ?_⟩
    by_contra no_digit
    have no_letter : ¬ (isHex c = true ∧ hexValue c < 10) := by
      intro letter
      have large := hex_letter_value c letter.1 (by simpa using no_digit)
      omega
    rw [digitsOf?, if_neg no_digit, if_neg no_letter] at read
    simp at read

def Based (cs : List Char) : Prop := ∃ letter ∈ ['x', 'o', 'b'], ∃ rest, cs = '0' :: letter :: rest

theorem based_before_stop (text rest after : List Char) (present : text ≠ []) (stops : Stops after)
    (based : Based (text ++ after)) : Based (text ++ rest) := by
  obtain ⟨letter, listed, more, same⟩ := based
  have none_stops : ∀ letter ∈ ['x', 'o', 'b'], letter ∉ " <>)],:;".toList := of_each (by decide)
  match text with
  | [] => exact absurd rfl present
  | [c] =>
    rw [List.singleton_append, List.cons.injEq] at same
    exact absurd (stops letter (by rw [same.2]; rfl)) (none_stops letter listed)
  | c :: d :: text =>
    cases same
    exact ⟨letter, listed, text ++ rest, rfl⟩

theorem decimal_reads (cs : List Char) (decimal : ¬ Based cs) :
    int? cs = (digitsOf? 10 false cs).bind (endNumber? cs) := by
  unfold int?
  split
  · exact absurd ⟨'x', by decide, _, rfl⟩ decimal
  · exact absurd ⟨'o', by decide, _, rfl⟩ decimal
  · exact absurd ⟨'b', by decide, _, rfl⟩ decimal
  · rfl

theorem decimal_front (cs : List Char) (n : Nat) (decimal : ¬ Based cs) (read : int? cs = some n) :
    WordFront int? cs n := by
  rw [decimal_reads cs decimal] at read
  obtain ⟨m, read_digits, read_end⟩ := Option.bind_eq_some_iff.mp read
  have starts := decimal_starts cs m read_digits
  obtain ⟨digits, rest, rfl, rfl, inside, unseen, takes⟩ := digits_front 10 false cs m read_digits
  have present : digits ≠ [] := unseen.resolve_left (by decide)
  obtain ⟨suffix, rest, rfl, rfl, word, ended, takes_end⟩ := end_number_front digits rest n read_end
  refine ⟨digits ++ suffix, rest, by simp, by simp, ?_, ?_, ended, ?_⟩
  · cases digits with
    | nil => exact absurd rfl present
    | cons d digits => exact starts
  · intro c member
    cases List.mem_append.mp member with
    | inl digit => exact .inr (inside c digit)
    | inr of_suffix => exact word c of_suffix
  · intro after stops
    have still_decimal : ¬ Based (digits ++ suffix ++ after) := by
      intro based
      apply decimal
      rw [← List.append_assoc]
      exact based_before_stop (digits ++ suffix) rest after (by simp [present]) stops based
    rw [decimal_reads _ still_decimal, List.append_assoc, takes suffix rest after rfl stops]
    exact takes_end after stops

theorem int_front (cs : List Char) (n : Nat) (read : int? cs = some n) : WordFront int? cs n := by
  by_cases based : Based cs
  · obtain ⟨letter, listed, rest, rfl⟩ := based
    simp only [List.mem_cons, List.not_mem_nil, or_false] at listed
    obtain rfl | rfl | rfl := listed
    · exact based_front 16 'x' (by decide) (fun cs => rfl) rest n read
    · exact based_front 8 'o' (by decide) (fun cs => rfl) rest n read
    · exact based_front 2 'b' (by decide) (fun cs => rfl) rest n read
  · exact decimal_front cs n based read

theorem point_no_word : ¬ (Text.isIdentStart '.' ∨ Text.isIdentContinue '.') := by decide

theorem word_float (text after : List Char) (n : Nat) (word : ∀ c ∈ text, Text.isIdentStart c ∨ Text.isIdentContinue c)
    (stops : Stops after) (read : float? (text ++ after) = some n) :
    ∃ whole others, text = whole ++ others ∧ RunOf isDigitOrLine (whole ++ others) whole others ∧
      (∃ c ∈ whole.head?, c.isDigit = true) ∧ exponentLength (others ++ after) ≠ 0 ∧
      endNumber? (whole ++ others ++ after) (whole.length + exponentLength (others ++ after)) = some n := by
  obtain ⟨m, read_digits, read_end⟩ := Option.bind_eq_some_iff.mp read
  obtain ⟨whole, others, run⟩ := run_of isDigitOrLine text
  obtain rfl := run.split
  rw [List.append_assoc] at read_digits
  have breaks := head_before_stop (isDigitOrLine · = false) others [] after (by simpa using run.stops) stops (of_each (by decide))
  have stopped : RunOf isDigitOrLine (whole ++ (others ++ after)) whole (others ++ after) := ⟨rfl, run.inside, breaks⟩
  have starts := run_starts whole (others ++ after) stopped (float_starts _ m read_digits)
  have no_point : ∀ more, others ++ [] ≠ '.' :: more := by
    intro more same
    rw [List.append_nil] at same
    exact point_no_word (word '.' (by rw [same]; simp))
  rw [float_digits_exponent whole (others ++ after) starts stopped (no_point_before_stop others [] after no_point stops)]
    at read_digits
  obtain ⟨present, same⟩ := Option.ite_none_left_eq_some.mp read_digits
  cases same
  exact ⟨whole, others, rfl, run, starts, present, read_end⟩

theorem word_no_float (text rest after : List Char) (word : ∀ c ∈ text, Text.isIdentStart c ∨ Text.isIdentContinue c)
    (ended : ∀ c ∈ rest.head?, Text.isIdentContinue c = false) (stops : Stops after)
    (no_float : float? (text ++ rest) = none) : float? (text ++ after) = none := by
  by_contra found
  obtain ⟨n, read⟩ := Option.ne_none_iff_exists'.mp found
  obtain ⟨whole, others, rfl, run, starts, present, read_end⟩ := word_float text after n word stops read
  have breaks (c : Char) (first : c ∈ rest.head?) := digit_continues c (ended c first)
  obtain ⟨kept, short⟩ := exponent_length_before_stop others after rest stops breaks present
  cases others with
  | nil => exact present (exponent_length_other after (stop_other after stops))
  | cons letter suffix =>
    have no_point : ∀ more, letter :: suffix ++ rest ≠ '.' :: more := by
      intro more same
      cases same
      exact point_no_word (word '.' (by simp))
    have digits := float_digits_exponent whole (letter :: suffix ++ rest) starts ⟨rfl, run.inside, run.stops⟩ no_point
    rw [kept, if_neg present] at digits
    rw [float?, List.append_assoc, digits] at no_float
    have inside : whole.length + exponentLength (letter :: suffix ++ after) ≤ (whole ++ letter :: suffix).length := by
      rw [List.length_append]
      omega
    have no_end := end_number_none_kept (whole ++ letter :: suffix) rest after _ inside ended
      (by rw [List.append_assoc]; exact no_float)
    cases no_end.symm.trans read_end

end ResourceRoutes.Source.Lexeme
