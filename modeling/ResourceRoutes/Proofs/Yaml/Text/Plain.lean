import ResourceRoutes.Proofs.Decimal
import ResourceRoutes.Proofs.Yaml.Cursor
import ResourceRoutes.Yaml.Printer
set_option autoImplicit false

namespace ResourceRoutes.Yaml.Text

def Unmarked : List Char → Prop
  | [] => True
  | c :: rest => (c = ':' → gapFollows rest = false) ∧ (endsLikeGap c = true → rest.head? ≠ some '#') ∧ Unmarked rest

theorem unmarked_of_indicators (c : Char) (rest : List Char) (held : holdsIndicator (c :: rest) = false)
    (first : c = ':' → gapFollows rest = false) : Unmarked (c :: rest) := by
  induction rest generalizing c with
  | nil => exact ⟨first, by simp, trivial⟩
  | cons d rest ih =>
    simp only [holdsIndicator, Bool.or_eq_false_iff, Bool.and_eq_false_imp, beq_iff_eq] at held
    obtain ⟨⟨colon, comment⟩, others⟩ := held
    refine ⟨first, fun gap => ?_, ih d others colon⟩
    simpa using comment gap

structure Plain (cs : List Char) : Prop where
  printable : ∀ c ∈ cs, isPrintable c = true
  unbroken : ∀ c ∈ cs, isBreak c = false
  unmarked : Unmarked cs
  unindented : cs.head? ≠ some ' '
  untrailed : cs.getLast? ≠ some ' '
  unambiguous : startsLikeIndicator cs = false

theorem starts_with_colon (c : Char) (rest : List Char) (starts : startsLikeIndicator (c :: rest) = false)
    (colon : c = ':') : gapFollows rest = false := by
  subst colon
  simp only [startsLikeIndicator, Bool.or_eq_false_iff] at starts
  simpa using starts.1.1.2

theorem plain_of_fits (cs : List Char) (fits : fitsPlain cs = true) : Plain cs := by
  simp only [fitsPlain, fitsSingle, Bool.and_eq_true, Bool.not_eq_true', List.all_eq_true,
    List.any_eq_false] at fits
  obtain ⟨⟨⟨⟨⟨⟨⟨printable, -⟩, -⟩, unbroken⟩, head⟩, last⟩, starts⟩, held⟩ := fits
  refine ⟨printable, fun c member => by simpa using unbroken c member, ?_, ?_, ?_, starts⟩
  · cases cs with
    | nil => trivial
    | cons c rest => exact unmarked_of_indicators c rest held (starts_with_colon c rest starts)
  · intro space
    simp [space, isSpace] at head
  · intro space
    simp [space, isSpace] at last

theorem digit_printable (c : Char) (digit : c.isDigit = true) : isPrintable c = true := by
  obtain ⟨low, high⟩ := Decimal.digit_range c digit
  simp [isPrintable]
  omega

theorem digit_unbroken (c : Char) (digit : c.isDigit = true) : isBreak c = false := by
  cases breaks : isBreak c with
  | false => rfl
  | true =>
    simp only [isBreak, Bool.or_eq_true, beq_iff_eq] at breaks
    rcases breaks with (((rfl | rfl) | rfl) | rfl) | rfl <;> cases digit

theorem digit_other (c d : Char) (digit : c.isDigit = true) (other : d.isDigit = false) : c ≠ d := by
  rintro rfl
  rw [digit] at other
  cases other

theorem unmarked_digits (cs : List Char) (digits : ∀ c ∈ cs, c.isDigit = true) : Unmarked cs := by
  induction cs with
  | nil => trivial
  | cons c cs ih =>
    have first := digits c (List.mem_cons_self ..)
    have others : ∀ d ∈ cs, d.isDigit = true := fun d member => digits d (List.mem_cons_of_mem _ member)
    refine ⟨fun colon => absurd colon (digit_other c ':' first rfl), fun _ mark => ?_, ih others⟩
    exact digit_other '#' '#' (others '#' (List.mem_of_mem_head? mark)) rfl rfl

theorem plain_digits (cs : List Char) (digits : ∀ c ∈ cs, c.isDigit = true) : Plain cs := by
  refine ⟨fun c member => digit_printable c (digits c member), fun c member => digit_unbroken c (digits c member),
    unmarked_digits cs digits, ?_, ?_, ?_⟩
  · intro first
    exact digit_other ' ' ' ' (digits ' ' (List.mem_of_mem_head? first)) rfl rfl
  · intro last
    exact digit_other ' ' ' ' (digits ' ' (List.mem_of_getLast? last)) rfl rfl
  · cases cs with
    | nil => rfl
    | cons c cs =>
      have other (d : Char) := digit_other c d (digits c (List.mem_cons_self ..))
      have unlisted (list : List Char) (none : list.any Char.isDigit = false) : list.contains c = false := by
        cases held : list.contains c with
        | false => rfl
        | true =>
          have some := List.any_eq_true.mpr ⟨c, List.contains_iff_mem.mp held, digits c (List.mem_cons_self ..)⟩
          rw [none] at some
          cases some
      have dash := other '-' rfl
      have dot := other '.' rfl
      rw [startsLikeIndicator, unlisted _ rfl, unlisted "?:-".toList rfl]
      simp [dash, dot]

theorem plain_flag (value : Bool) : Plain (flagText value) := by
  cases value <;> exact plain_of_fits _ (by decide)

structure Words (cs : List Char) : Prop where
  printable : ∀ c ∈ cs, isPrintable c = true
  unbroken : ∀ c ∈ cs, isBreak c = false
  unmarked : Unmarked cs
  untrailed : cs.getLast? ≠ some ' '

theorem Plain.words {cs : List Char} (plain : Plain cs) : Words cs :=
  ⟨plain.printable, plain.unbroken, plain.unmarked, plain.untrailed⟩

theorem Words.tail {c : Char} {cs : List Char} (words : Words (c :: cs)) : Words cs := by
  refine ⟨fun d member => words.printable d (List.mem_cons_of_mem _ member),
    fun d member => words.unbroken d (List.mem_cons_of_mem _ member), words.unmarked.2.2, ?_⟩
  have last := words.untrailed
  cases cs with
  | nil => simp
  | cons d cs => simpa using last

theorem Words.more {cs : List Char} (words : Words (' ' :: cs)) : cs ≠ [] := by
  rintro rfl
  exact words.untrailed rfl

theorem read_word_char (least fuel : Nat) (at' : Cursor) (text : List Char) (gap : Gap) (c : Char)
    (rest : List Char) (here : at'.rest = c :: rest) (blank : isBlank c = false) (unbroken : isBreak c = false)
    (colon : c = ':' → gapFollows rest = false) :
    plainText? false least (fuel + 1) at' text gap =
      plainText? false least fuel (at'.skip 1) (text ++ gap.text ++ [c]) {} := by
  have goes : plainEnds? false c rest = some false := by
    by_cases same : c = ':'
    · simp [plainEnds?, colon same]
    · simp [plainEnds?, same]
  rw [plainText?, here]
  simp only [blank, unbroken, Bool.or_self, Bool.false_eq_true, if_false, goes]

theorem read_word_gap (least n fuel : Nat) (at' : Cursor) (text : List Char) (c : Char) (rest : List Char)
    (here : at'.rest = spaces (n + 1) ++ c :: rest) (blank : isBlank c = false) (unbroken : isBreak c = false)
    (colon : c = ':' → gapFollows rest = false) (comment : c ≠ '#') (inside : least ≤ at'.column + 1) :
    plainText? false least (fuel + 2) at' text {} =
      plainText? false least fuel (at'.skip (n + 2)) (text ++ spaces (n + 1) ++ [c]) {} := by
  have there : (at'.skip (n + 1)).rest = c :: rest := Cursor.skip_rest at' _ _ _ here (spaces_length _).symm
  have read := Gap.read_spaces least (n + 1) at'.rest.length at' [] (c :: rest) here
    (settled_cons c rest blank unbroken) (by rw [here]; simp [spaces_length])
  have column : ¬ (at'.skip (n + 1)).column < least := by
    rw [Cursor.skip_column]
    omega
  have unmarked := Cursor.document_mark_beyond (at'.skip (n + 1)) (by rw [Cursor.skip_column]; omega)
  have first : at'.rest = ' ' :: (spaces n ++ c :: rest) := by rw [here, spaces_succ]
  have stepped : plainText? false least (fuel + 2) at' text {} =
      plainText? false least (fuel + 1) (at'.skip (n + 1)) text { blanks := spaces (n + 1) } := by
    rw [plainText?]
    split
    · rename_i empty
      rw [first] at empty
      cases empty
    · rename_i d tail same
      rw [first] at same
      cases same
      rw [List.nil_append] at read
      simp [isBlank, read, column, unmarked, there, comment]
  rw [stepped, read_word_char least fuel _ text _ c rest there blank unbroken colon, Cursor.skip_skip]
  rfl

-- The induction is on the text that is left; `n` blanks in front of it are not read yet, because a gap is
-- read as a whole. What happens behind the text is a matter of `ends`.
theorem read_words (least : Nat) (cs tail : List Char) (result : Gap) (stop : Cursor) (n fuel : Nat) (at' : Cursor)
    (text : List Char) (here : at'.rest = spaces n ++ (cs ++ tail)) (words : Words cs)
    (comment : 0 < n → cs.head? ≠ some '#') (whole : cs = [] → n = 0) (inside : least ≤ at'.column + 1)
    (enough : n + cs.length < fuel)
    (ends : ∀ (text : List Char) (fuel : Nat), 0 < fuel →
      plainText? false least fuel (at'.skip (n + cs.length)) text {} = some ⟨text, result, stop⟩) :
    plainText? false least fuel at' text {} = some ⟨text ++ spaces n ++ cs, result, stop⟩ := by
  induction cs generalizing n fuel at' text with
  | nil =>
    obtain rfl := whole rfl
    simpa [spaces, Cursor.skip_zero] using ends text fuel (by omega)
  | cons c cs ih =>
    obtain ⟨colon, mark, -⟩ := words.unmarked
    simp only [List.length_cons, List.cons_append] at here enough ends
    by_cases space : c = ' '
    · subst space
      have read := ih (n + 1) fuel at' text (by rw [here, spaces_snoc]) words.tail (fun _ => mark rfl)
        (fun none => absurd none words.more) inside (by omega)
        (by simpa only [Nat.add_assoc, Nat.add_comm 1 cs.length] using ends)
      rw [read, List.append_assoc, spaces_snoc, ← List.append_assoc]
    · have blank := printable_blank c (words.printable c (List.mem_cons_self ..)) space
      have solid := words.unbroken c (List.mem_cons_self ..)
      have colon_tail : c = ':' → gapFollows (cs ++ tail) = false := fun same =>
        gap_follows_append cs tail (colon same)
      -- from here on the word goes on, whatever stood in front of its first character
      have rest_read (m more : Nat) (moved : m = n + 1) (length : cs.length < more) (text : List Char) :
          plainText? false least more (at'.skip m) text {} = some ⟨text ++ cs, result, stop⟩ := by
        subst moved
        have there : (at'.skip (n + 1)).rest = spaces 0 ++ (cs ++ tail) :=
          Cursor.skip_rest at' (spaces n ++ [c]) _ _ (by simp [here, spaces]) (by simp [spaces])
        have read := ih 0 more (at'.skip (n + 1)) text there words.tail (by simp) (fun _ => rfl)
          (by rw [Cursor.skip_column]; omega) (by omega) (by
            intro text fuel some
            rw [Cursor.skip_skip]
            have ended := ends text fuel some
            rwa [show n + (cs.length + 1) = n + 1 + (0 + cs.length) by omega] at ended)
        simpa [spaces] using read
      cases n with
      | zero =>
        obtain ⟨fuel, rfl⟩ : ∃ more, fuel = more + 1 := ⟨fuel - 1, by omega⟩
        have first : at'.rest = c :: (cs ++ tail) := by simpa [spaces] using here
        rw [read_word_char least fuel at' text {} c _ first blank solid colon_tail,
          rest_read 1 fuel rfl (by omega)]
        simp [Gap.text, spaces]
      | succ n =>
        obtain ⟨fuel, rfl⟩ : ∃ more, fuel = more + 2 := ⟨fuel - 2, by omega⟩
        have unhashed : c ≠ '#' := fun same => comment (Nat.succ_pos n) (by rw [same]; rfl)
        rw [read_word_gap least n fuel at' text c _ here blank solid colon_tail unhashed inside,
          rest_read (n + 2) fuel rfl (by omega)]
        simp

theorem read_plain (least : Nat) (cs tail : List Char) (result : Gap) (stop : Cursor) (fuel : Nat) (at' : Cursor)
    (here : at'.rest = cs ++ tail) (plain : Plain cs) (inside : least ≤ at'.column + 1) (enough : cs.length < fuel)
    (ends : ∀ (text : List Char) (fuel : Nat), 0 < fuel →
      plainText? false least fuel (at'.skip cs.length) text {} = some ⟨text, result, stop⟩) :
    plainText? false least fuel at' [] {} = some ⟨cs, result, stop⟩ :=
  read_words least cs tail result stop 0 fuel at' [] here plain.words (by simp) (fun _ => rfl) inside (by omega)
    (by simpa using ends)

theorem read_plain_key (least : Nat) (cs tail : List Char) (fuel : Nat) (at' : Cursor)
    (here : at'.rest = cs ++ ':' :: tail) (plain : Plain cs) (gap : gapFollows tail = true)
    (inside : least ≤ at'.column + 1) (enough : cs.length < fuel) :
    plainText? false least fuel at' [] {} = some ⟨cs, {}, at'.skip cs.length⟩ := by
  refine read_plain least cs _ _ _ fuel at' here plain inside enough fun text fuel some => ?_
  obtain ⟨fuel, rfl⟩ : ∃ more, fuel = more + 1 := ⟨fuel - 1, by omega⟩
  have there := Cursor.skip_rest at' cs (':' :: tail) _ here rfl
  rw [plainText?, there]
  simp [isBlank, isBreak, plainEnds?, gap]

theorem read_plain_line (least n : Nat) (cs breaks tail : List Char) (fuel : Nat) (at' : Cursor)
    (here : at'.rest = cs ++ '\n' :: (breaks ++ spaces n ++ tail)) (plain : Plain cs)
    (plain_breaks : ∀ c ∈ breaks, isPlainBreak c = true) (settled : Settled tail) (outside : n < least)
    (inside : least ≤ at'.column + 1) (enough : cs.length < fuel) :
    ∃ gap stop, plainText? false least fuel at' [] {} = some ⟨cs, gap, stop⟩ ∧ gap.leading.isSome = true ∧
      stop.rest = tail ∧ stop.column = n ∧ at'.line < stop.line := by
  have there := Cursor.skip_rest at' cs _ _ here rfl
  obtain ⟨stop, read, rest, column, line⟩ := Gap.read_line_end least n (at'.skip cs.length).rest.length
    (at'.skip cs.length) '\n' breaks tail there rfl plain_breaks settled (by
      rw [there]
      simp only [List.length_cons, List.length_append, spaces_length]
      omega)
  refine ⟨⟨[], some ['\n'], breaks⟩, stop, ?_, rfl, rest, column, line⟩
  refine read_plain least cs _ _ stop fuel at' here plain inside enough fun text fuel some => ?_
  obtain ⟨fuel, rfl⟩ : ∃ more, fuel = more + 1 := ⟨fuel - 1, by omega⟩
  rw [plainText?]
  split
  · rename_i empty
    rw [there] at empty
    cases empty
  · rename_i c rest same
    rw [there] at same
    cases same
    simp [isBreak, read, column, outside]

end ResourceRoutes.Yaml.Text
