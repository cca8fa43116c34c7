import ResourceRoutes.Proofs.Source.Token.Literals
set_option autoImplicit false

/- Every token of a text is told from its own characters: written down again in front of a stop it is read again. -/
namespace ResourceRoutes.Source

namespace Lexeme

theorem word_head (text after : List Char) (word : ∀ c ∈ text, Text.isIdentContinue c = true) (stops : Stops after) :
    ∀ c ∈ (text ++ after).head?, c ∉ ['#', '"', '\''] := by
  have none_goes_on : ∀ c ∈ ['#', '"', '\''], Text.isIdentContinue c = false ∧ c ∉ " <>)],:;".toList := of_each (by decide)
  intro c first listed
  obtain ⟨no_word, no_stop⟩ := none_goes_on c listed
  cases text with
  | nil => exact no_stop (stops c first)
  | cons d text =>
    cases first
    rw [word c (List.mem_cons_self ..)] at no_word
    cases no_word

theorem raw_unmarked (content : Content) (cs : List Char) (unmarked : ∀ c ∈ cs.head?, c ∉ ['#', '"', '\'']) :
    raw? content cs = none := by
  cases cs with
  | nil => rfl
  | cons c cs =>
    have other := unmarked c rfl
    simp only [List.mem_cons, List.not_mem_nil, or_false, not_or] at other
    simp [raw?, other]

theorem no_number (cs : List Char) (other : ∀ c ∈ cs.head?, c.isDigit = false) : float? cs = none ∧ int? cs = none := by
  constructor
  · cases read : float? cs with
    | none => rfl
    | some n =>
      obtain ⟨m, read_digits, -⟩ := Option.bind_eq_some_iff.mp read
      obtain ⟨c, first, digit⟩ := float_starts cs m read_digits
      rw [other c first] at digit
      cases digit
  · cases read : int? cs with
    | none => rfl
    | some n =>
      obtain ⟨text, rest, rfl, -, starts, -⟩ := int_front cs n read
      obtain ⟨c, first, digit⟩ := starts_of_whole text rest starts
      rw [other c first] at digit
      cases digit

theorem start_no_digit (c : Char) (starts : Text.isIdentStart c = true) : c.isDigit = false := by
  rw [Bool.eq_false_iff]
  intro digit
  have each : ∀ c ∈ "0123456789".toList, Text.isIdentStart c = false := of_each (by decide)
  rw [each c (digit_cases c digit)] at starts
  cases starts

theorem start_no_quote (c : Char) (starts : Text.isIdentStart c = true) : c ≠ '"' ∧ c ≠ '\'' ∧ c ≠ '\\' ∧ c ≠ '#' := by
  have each : ∀ c ∈ ['"', '\'', '\\', '#'], Text.isIdentStart c = false := of_each (by decide)
  refine ⟨?_, ?_, ?_, ?_⟩ <;> intro same <;> rw [same, each _ (by decide)] at starts <;> cases starts

theorem ticked_unticked (content : Content) (cs : List Char) (unticked : ∀ c ∈ cs.head?, c ≠ '\'') : ticked? content cs = none := by
  cases read : ticked? content cs with
  | none => rfl
  | some n =>
    obtain ⟨body, rest, rfl, -, -⟩ := ticked_front content cs n read
    exact absurd rfl (unticked '\'' rfl)

theorem word_tail (text after rest : List Char) (c : Char) (word : ∀ c ∈ text, Text.isIdentContinue c = true)
    (stops : Stops after) (no_stop : c ∉ " <>)],:;".toList) (same : text ++ after = c :: rest) :
    ∀ d ∈ rest.head?, d ∉ ['#', '"', '\''] := by
  cases text with
  | nil => exact absurd (stops c (by rw [List.nil_append] at same; rw [same]; rfl)) no_stop
  | cons d text =>
    cases same
    exact word_head text after (fun e member => word e (List.mem_cons_of_mem _ member)) stops

theorem plain_name_no_string (c : Char) (text after : List Char) (starts : Text.isIdentStart c = true)
    (word : ∀ c ∈ text, Text.isIdentContinue c = true) (stops : Stops after) : string? (c :: (text ++ after)) = none := by
  have head := word_head text after word stops
  generalize same : text ++ after = rest at head
  unfold string?
  split
  · rename_i behind first
    cases first
    rw [raw_unmarked _ behind (word_tail text after behind 'r' word stops (by decide) same)]
    rfl
  · rename_i behind first
    cases first
    rw [raw_unmarked _ behind (word_tail text after behind 'r' word stops (by decide) same)]
    rfl
  · rename_i first
    cases first
    exact absurd (by decide) (head '"' rfl)
  · rename_i first
    cases first
    exact absurd (by decide) (head '"' rfl)
  · rename_i first
    cases first
    rw [raw_unmarked _ rest head]
    rfl
  · unfold quoted?
    split
    · rename_i first
      cases first
      exact absurd rfl (start_no_quote _ starts).1
    · rfl

theorem plain_name_no_character (c : Char) (text after : List Char) (starts : Text.isIdentStart c = true)
    (word : ∀ c ∈ text, Text.isIdentContinue c = true) (stops : Stops after) :
    character? (c :: (text ++ after)) = none := by
  unfold character?
  split
  · rename_i first
    cases first
    rw [ticked_unticked]
    · rfl
    · intro d tick same
      exact word_head text after word stops d tick (by rw [same]; decide)
  · apply ticked_unticked
    intro d first
    cases first
    exact (start_no_quote _ starts).2.1

theorem plain_name_no_literal (c : Char) (text after : List Char) (starts : Text.isIdentStart c = true)
    (word : ∀ c ∈ text, Text.isIdentContinue c = true) (stops : Stops after) : literal? (c :: (text ++ after)) = none := by
  obtain ⟨no_float, no_int⟩ := no_number (c :: (text ++ after)) (by
    intro d first
    cases first
    exact start_no_digit _ starts)
  rw [literal?, plain_name_no_string c text after starts word stops, plain_name_no_character c text after starts word stops,
    no_float, no_int]

theorem raw_name_no_literal (c : Char) (rest : List Char) (starts : Text.isIdentStart c = true) :
    literal? ('r' :: '#' :: c :: rest) = none := by
  obtain ⟨no_quote, -, -, no_mark⟩ := start_no_quote c starts
  have no_string : string? ('r' :: '#' :: c :: rest) = none := by
    simp [string?, raw?, no_mark, no_quote]
  have no_character : character? ('r' :: '#' :: c :: rest) = none := by
    apply ticked_unticked .text ('r' :: '#' :: c :: rest)
    intro d first
    cases first
    decide
  obtain ⟨no_float, no_int⟩ := no_number ('r' :: '#' :: c :: rest) (by
    intro d first
    cases first
    decide)
  rw [literal?, no_string, no_character, no_float, no_int]

theorem name_cases (name after : List Char) (read : anyIdent? (name ++ after) = some name.length) :
    ∃ mark c text, name = mark ++ c :: text ∧ (mark = [] ∨ mark = ['r', '#']) ∧ Text.isIdentStart c = true ∧
      ∀ d ∈ text, Text.isIdentContinue d = true := by
  have word (cs : List Char) (n : Nat) (read : ident? cs = some n) :
      ∃ c text, cs.take n = c :: text ∧ Text.isIdentStart c = true ∧ ∀ d ∈ text, Text.isIdentContinue d = true := by
    cases cs with
    | nil => cases read
    | cons c rest =>
      rw [ident?] at read
      obtain ⟨starts, same⟩ := Option.ite_none_right_eq_some.mp read
      cases same
      obtain ⟨text, others, run⟩ := run_of Text.isIdentContinue rest
      refine ⟨c, text, ?_, starts, run.inside⟩
      rw [run.take_while, Nat.add_comm, List.take_succ_cons, run.split, List.take_left]
  unfold anyIdent? at read
  split at read
  · rename_i rest same
    split at read
    · rename_i n read_name
      obtain ⟨rawable, long⟩ := Option.ite_none_left_eq_some.mp read
      have long : n + 2 = name.length := Option.some.inj long
      obtain ⟨c, text, taken, starts, inside⟩ := word rest n read_name
      refine ⟨['r', '#'], c, text, ?_, .inr rfl, starts, inside⟩
      have front : (name ++ after).take name.length = name := List.take_left
      rw [← front, same, ← long, List.take_succ_cons, List.take_succ_cons, taken]
      rfl
    · cases read
  · obtain ⟨c, text, taken, starts, inside⟩ := word _ _ read
    rw [List.take_left] at taken
    exact ⟨[], c, text, taken, .inl rfl, starts, inside⟩

theorem name_no_literal (name after : List Char) (stops : Stops after)
    (read : anyIdent? (name ++ after) = some name.length) : literal? (name ++ after) = none := by
  obtain ⟨mark, c, text, rfl, rfl | rfl, starts, word⟩ := name_cases name after read
  · exact plain_name_no_literal c text after starts word stops
  · exact raw_name_no_literal c (text ++ after) starts

theorem literal_starts_marked (start : List Char) (listed : start ∈ literalStarts) :
    (∃ c ∈ (start.drop 1).head?, c ∈ ['#', '"', '\'']) ∨
      ((start.drop 1).head? = some 'r' ∧ ∃ c ∈ (start.drop 2).head?, c ∈ ['#', '"', '\'']) := by
  have each : literalStarts.all (fun start => (start.drop 1).head?.any (['#', '"', '\''].contains ·)
      || (start.drop 1).head? == some 'r' && (start.drop 2).head?.any (['#', '"', '\''].contains ·)) = true := by
    decide
  have own := List.all_eq_true.mp each start listed
  simp only [Bool.or_eq_true, Bool.and_eq_true, beq_iff_eq, Option.any_eq_true, List.contains_iff_mem] at own
  exact own

theorem raw_starts_marked (start : List Char) (listed : start ∈ literalStarts) :
    2 ≤ start.length ∧ (start.take 2 = ['r', '#'] → ∃ c ∈ (start.drop 2).head?, c ∈ ['#', '"']) := by
  have each : literalStarts.all (fun start => 2 ≤ start.length
      && (start.take 2 != ['r', '#'] || (start.drop 2).head?.any (['#', '"'].contains ·))) = true := by
    decide
  have own := List.all_eq_true.mp each start listed
  simp only [Bool.and_eq_true, Bool.or_eq_true, decide_eq_true_eq, bne_iff_ne, Option.any_eq_true,
    List.contains_iff_mem] at own
  exact ⟨own.1, fun raw => own.2.resolve_left (fun other => other raw)⟩

theorem plain_name_no_start (c : Char) (text after start rest : List Char) (word : ∀ c ∈ text, Text.isIdentContinue c = true)
    (stops : Stops after) (listed : start ∈ literalStarts) : start ++ rest ≠ c :: (text ++ after) := by
  intro same
  cases start with
  | nil => exact absurd listed (by decide)
  | cons d start =>
    rw [List.cons_append, List.cons.injEq] at same
    cases literal_starts_marked _ listed with
    | inl marked =>
      obtain ⟨e, first, mark⟩ := marked
      refine word_head text after word stops e ?_ mark
      rw [← same.2]
      cases start with
      | nil => cases first
      | cons f start => exact first
    | inr marked =>
      obtain ⟨second, e, third, mark⟩ := marked
      cases start with
      | nil => cases second
      | cons f start =>
        cases second
        refine word_tail text after (start ++ rest) 'r' word stops (by decide) same.2.symm e ?_ mark
        cases start with
        | nil => cases third
        | cons g start => exact third

theorem name_no_literal_start (name after : List Char) (stops : Stops after)
    (read : anyIdent? (name ++ after) = some name.length) : literalStarts.any (·.isPrefixOf (name ++ after)) = false := by
  rw [List.any_eq_false]
  intro start listed opened
  obtain ⟨rest, same⟩ := List.isPrefixOf_iff_prefix.mp opened
  obtain ⟨mark, c, text, rfl, rfl | rfl, starts, word⟩ := name_cases name after read
  · exact plain_name_no_start c text after start rest word stops listed same
  · obtain ⟨no_quote, -, -, no_mark⟩ := start_no_quote c starts
    obtain ⟨long, marked⟩ := raw_starts_marked start listed
    have kept : (start ++ rest).take 2 = start.take 2 := List.take_append_of_le_length long
    have front : start.take 2 = ['r', '#'] := by
      rw [← kept, same]
      rfl
    obtain ⟨d, third, mark⟩ := marked front
    have own : d = c := by
      have behind : (start ++ rest).drop 2 = c :: (text ++ after) := by
        rw [same]
        rfl
      rw [List.drop_append_of_le_length long] at behind
      cases left : start.drop 2 with
      | nil =>
        rw [left] at third
        cases third
      | cons e others =>
        rw [left] at third behind
        cases third
        exact (List.cons.inj behind).1
    rw [own] at mark
    simp only [List.mem_cons, List.not_mem_nil, or_false] at mark
    exact mark.elim no_mark no_quote

end Lexeme

theorem name_no_sign (name after : List Char) (read : Lexeme.anyIdent? (name ++ after) = some name.length) :
    ∃ c ∈ name.head?, Text.isIdentStart c = true := by
  obtain ⟨mark, c, text, rfl, rfl | rfl, starts, -⟩ := Lexeme.name_cases name after read
  · exact ⟨c, rfl, starts⟩
  · exact ⟨'r', rfl, by decide⟩

theorem blank_codes (n : Nat) (blank : Text.within n Text.whiteSpaceRanges = true) :
    n < 14 ∨ (0x2000 ≤ n ∧ n < 0x200B) ∨ n ∈ [0x20, 0x85, 0xA0, 0x1680, 0x2028, 0x2029, 0x202F, 0x205F, 0x3000] := by
  simp only [Text.within, Text.whiteSpaceRanges] at blank
  simp only [List.mem_cons, List.not_mem_nil, or_false]
  grind

theorem space_no_start (c : Char) (space : isSpace c = true) : Text.isIdentStart c = false := by
  have low : ∀ n < 14, Text.within n Text.identifierStartRanges = false := by decide
  have wide : ∀ d < 11, Text.within (0x2000 + d) Text.identifierStartRanges = false := by decide +kernel
  have single : ∀ n ∈ [0x20, 0x85, 0xA0, 0x1680, 0x2028, 0x2029, 0x202F, 0x205F, 0x3000],
      Text.within n Text.identifierStartRanges = false := by decide +kernel
  have of_blank (blank : Text.isBlank c = true) : Text.within c.toNat Text.identifierStartRanges = false := by
    obtain below | ⟨above, below⟩ | listed := blank_codes c.toNat blank
    · exact low c.toNat below
    · obtain ⟨d, same⟩ := Nat.exists_eq_add_of_le above
      rw [same]
      exact wide d (by omega)
    · exact single c.toNat listed
  rw [isSpace, Bool.or_eq_true, Bool.or_eq_true, beq_iff_eq, beq_iff_eq] at space
  obtain (blank | rfl) | rfl := space
  · rw [Text.isIdentStart, of_blank blank, Bool.or_false, beq_eq_false_iff_ne]
    intro line
    rw [line] at blank
    revert blank
    decide
  · decide +kernel
  · decide +kernel

theorem start_begins_token (c : Char) (starts : Text.isIdentStart c = true) :
    beginsToken c = true ∧ isPunctuation c = false := by
  have none_starts : ∀ d ∈ "~!@#$%^&*-=+|;:,<.>/?'()[]\x7b\x7d\ufeff".toList, Text.isIdentStart d = false :=
    Lexeme.of_each (by decide +kernel)
  have other (d : Char) (listed : d ∈ "~!@#$%^&*-=+|;:,<.>/?'()[]\x7b\x7d\ufeff".toList) : c ≠ d := by
    intro same
    rw [same, none_starts d listed] at starts
    cases starts
  have no_space : isSpace c = false := by
    rw [Bool.eq_false_iff]
    intro space
    rw [space_no_start c space] at starts
    cases starts
  have no_opening : opening? c = none := by
    unfold opening?
    split
    · exact absurd rfl (other _ (by decide))
    · exact absurd rfl (other _ (by decide))
    · exact absurd rfl (other _ (by decide))
    · rfl
  have no_closing : closing? c = none := by
    unfold closing?
    split
    · exact absurd rfl (other _ (by decide))
    · exact absurd rfl (other _ (by decide))
    · exact absurd rfl (other _ (by decide))
    · rfl
  constructor
  · have no_mark : "/*:\ufeff".toList.contains c = false := by
      simp only [String.reduceToList, List.contains_eq_mem, List.mem_cons, List.not_mem_nil, or_false, decide_eq_false_iff_not,
        not_or]
      exact ⟨other '/' (by decide), other '*' (by decide), other ':' (by decide), other '\ufeff' (by decide)⟩
    rw [beginsToken, no_space, no_opening, no_closing, no_mark]
    rfl
  · rw [isPunctuation, Bool.eq_false_iff]
    intro sign
    have listed : c ∈ "~!@#$%^&*-=+|;:,<.>/?'".toList := by simpa using sign
    exact other c (List.mem_append_left "()[]\x7b\x7d\ufeff".toList listed) rfl

namespace Tree

structure Word (tree : Tree) : Prop where
  shut : Lexeme.Shut tree.text
  begins : ∃ c ∈ tree.text.head?, beginsToken c = true
  takes : ∀ after, Stops after → token? (tree.text ++ after) = some (tree, tree.text.length)

end Tree

theorem literal_word (text : List Char) (literal : Lexeme.LiteralText text) : Tree.Word (.literal text) where
  shut := literal.shut
  begins := literal.begins
  takes after stops := by
    rw [Tree.text]
    unfold token?
    rw [literal.takes after stops]
    simp

theorem name_chars (name : List Char) (read : Lexeme.anyIdent? name = some name.length) : ∀ c ∈ name, c ∉ Lexeme.edges := by
  intro c member
  have chars := Lexeme.any_ident_chars name name.length read
  rw [List.take_length] at chars
  obtain starts | goes_on | rfl := chars c member
  · exact Lexeme.word_no_edge c (.inl starts)
  · exact Lexeme.word_no_edge c (.inr goes_on)
  · decide

theorem name_word (name : List Char) (named : ∀ after, Stops after → Lexeme.anyIdent? (name ++ after) = some name.length) :
    Tree.Word (.ident name) where
  shut := by
    have read := named [] stops_nil
    obtain ⟨c, first, -⟩ := name_no_sign name [] read
    rw [List.append_nil] at read
    refine Lexeme.shut_number name ?_ (name_chars name read)
    intro empty
    rw [empty] at first
    cases first
  begins := by
    obtain ⟨c, first, starts⟩ := name_no_sign name [] (named [] stops_nil)
    exact ⟨c, first, (start_begins_token c starts).1⟩
  takes after stops := by
    have read := named after stops
    obtain ⟨c, first, starts⟩ := name_no_sign name after read
    rw [Tree.text]
    have no_sign : startsPunctuation (name ++ after) = false := by
      cases name with
      | nil => cases first
      | cons d name =>
        cases first
        rw [startsPunctuation, List.cons_append, List.head?_cons, Option.any_some, (start_begins_token _ starts).2, Bool.and_false]
    unfold token?
    rw [Lexeme.name_no_literal name after stops read]
    simp [no_sign, Lexeme.name_no_literal_start name after stops read, read]

theorem lifetime_cases (name after : List Char) (read : lifetime? (name ++ after) = some name.length) :
    ∃ own, name = '\'' :: own ∧ Lexeme.anyIdent? (own ++ after) = some own.length := by
  unfold lifetime? at read
  split at read
  · rename_i rest same
    split at read
    · rename_i n read_name
      obtain ⟨-, long⟩ := Option.ite_none_left_eq_some.mp read
      have long : n + 1 = name.length := Option.some.inj long
      cases name with
      | nil => cases long
      | cons c own =>
        rw [List.cons_append, List.cons.injEq] at same
        obtain ⟨rfl, rfl⟩ := same
        rw [Nat.succ.inj long] at read_name
        exact ⟨own, rfl, read_name⟩
    · cases read
  · cases read

theorem lifetime_no_literal (own after : List Char) (stops : Stops after)
    (read : Lexeme.anyIdent? (own ++ after) = some own.length) : Lexeme.literal? ('\'' :: (own ++ after)) = none := by
  have no_string : Lexeme.string? ('\'' :: (own ++ after)) = none := rfl
  have no_character : Lexeme.character? ('\'' :: (own ++ after)) = none := by
    change Lexeme.ticked? .text ('\'' :: (own ++ after)) = none
    obtain ⟨mark, c, text, rfl, rfl | rfl, starts, word⟩ := Lexeme.name_cases own after read
    · have no_escape := (Lexeme.start_no_quote c starts).2.2.1
      have no_tick : (text ++ after)[0]? ≠ some '\'' := by
        intro tick
        rw [← List.head?_eq_getElem?] at tick
        exact Lexeme.word_head text after word stops '\'' tick (by decide)
      simp [Lexeme.ticked?, Lexeme.allowed, no_tick]
    · rfl
  obtain ⟨no_float, no_int⟩ := Lexeme.no_number ('\'' :: (own ++ after)) (by
    intro c first
    cases first
    decide)
  rw [Lexeme.literal?, no_string, no_character, no_float, no_int]

theorem lifetime_own_named (name : List Char) (named : ∀ after, Stops after → lifetime? (name ++ after) = some name.length) :
    ∃ own, name = '\'' :: own ∧ ∀ after, Stops after → Lexeme.anyIdent? (own ++ after) = some own.length := by
  obtain ⟨own, rfl, -⟩ := lifetime_cases name [] (named [] stops_nil)
  refine ⟨own, rfl, ?_⟩
  intro after stops
  obtain ⟨again, same, read⟩ := lifetime_cases _ after (named after stops)
  rw [← (List.cons.inj same).2] at read
  exact read

theorem lifetime_word (name : List Char) (named : ∀ after, Stops after → lifetime? (name ++ after) = some name.length) :
    Tree.Word (.lifetime name) where
  shut := by
    obtain ⟨own, rfl, named_own⟩ := lifetime_own_named name named
    exact (name_word own named_own).shut.cons '\''
  begins := by
    obtain ⟨own, rfl, -⟩ := lifetime_cases name [] (named [] stops_nil)
    exact ⟨'\'', rfl, by decide⟩
  takes after stops := by
    have read := named after stops
    obtain ⟨own, rfl, read_own⟩ := lifetime_cases name after read
    rw [Tree.text]
    have sign : startsPunctuation ('\'' :: (own ++ after)) = true := rfl
    rw [List.cons_append] at read ⊢
    unfold token?
    rw [lifetime_no_literal own after stops read_own, sign, if_pos rfl]
    dsimp only
    rw [read, Option.map_some, ← List.cons_append, List.take_left]
    rfl

inductive Tree.Spelled : Tree → Prop where
  | ident (name : List Char) (word : Tree.Word (.ident name)) (solid : ' ' ∉ name) : Spelled (.ident name)
  | lifetime (name : List Char) (word : Tree.Word (.lifetime name)) (solid : ' ' ∉ name) : Spelled (.lifetime name)
  | literal (text : List Char) (lasting : Lexeme.LastingLiteral text) : Spelled (.literal text)

theorem ident_spelled (cs : List Char) (n : Nat) (read : Lexeme.anyIdent? cs = some n) :
    Tree.Spelled (.ident (cs.take n)) := by
  have named := ident_named cs n read
  refine .ident _ (name_word _ named) ?_
  intro inside
  have alone := named [] stops_nil
  rw [List.append_nil] at alone
  exact name_chars _ alone ' ' inside (by decide)

theorem lifetime_spelled (cs : List Char) (n : Nat) (read : lifetime? cs = some n) :
    Tree.Spelled (.lifetime (cs.take n)) := by
  have named := lifetime_named cs n read
  refine .lifetime _ (lifetime_word _ named) ?_
  obtain ⟨own, same, named_own⟩ := lifetime_own_named _ named
  rw [same]
  apply Lexeme.not_mem_cons (by decide)
  intro inside
  have alone := named_own [] stops_nil
  rw [List.append_nil] at alone
  exact name_chars own alone ' ' inside (by decide)

theorem token_cases (cs : List Char) (tree : Tree) (n : Nat) (read : token? cs = some (tree, n)) :
    tree.Spelled ∨
      ∃ c rest, cs = c :: rest ∧ startsPunctuation cs = true ∧ c ≠ '\'' ∧ tree = .punct c (startsPunctuation rest) ∧ n = 1 := by
  unfold token? at read
  split at read
  · rename_i m read_literal
    cases read
    obtain ⟨text, rest, rfl, rfl, lasting⟩ := Lexeme.literal_front cs _ read_literal
    rw [List.take_left]
    exact .inl (.literal text lasting)
  split at read
  · rename_i sign
    split at read
    · rename_i rest
      obtain ⟨m, read_lifetime, same⟩ := Option.map_eq_some_iff.mp read
      cases same
      exact .inl (lifetime_spelled _ _ read_lifetime)
    · rename_i c rest no_tick no_literal
      cases read
      exact .inr ⟨c, rest, rfl, sign, no_tick, rfl, rfl⟩
    · cases read
  split at read
  · cases read
  obtain ⟨m, read_name, same⟩ := Option.map_eq_some_iff.mp read
  cases same
  exact .inl (ident_spelled _ _ read_name)

end ResourceRoutes.Source
