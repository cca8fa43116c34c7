import ResourceRoutes.Proofs.Yaml.Cursor
set_option autoImplicit false

/- Empty lines behind a block belong to it, and show only if all breaks are kept. -/
namespace ResourceRoutes.Yaml.Text

theorem leading_spaces (n : Nat) (tail : List Char) (other : tail.head? ≠ some ' ') :
    ((spaces n ++ tail).takeWhile (· == ' ')).length = n := by
  have stop : ∀ c ∈ tail.head?, (c == ' ') = false := by
    intro c first
    rw [Option.mem_def] at first
    simpa [first] using other
  rw [take_spaces _ n tail rfl stop, spaces_length]

theorem leading_spaces_least (n : Nat) (tail : List Char) : n ≤ ((spaces n ++ tail).takeWhile (· == ' ')).length := by
  induction n with
  | zero => exact Nat.zero_le _
  | succ n ih =>
    rw [spaces_succ, List.takeWhile_cons]
    simpa using ih

structure Line (indent n : Nat) (tail : List Char) : Prop where
  known : 0 < indent
  within : n ≤ indent
  cut : n < indent → tail.head? ≠ some ' '
  unbroken : ∀ c ∈ tail.head?, isBreak c = false
  untabbed : tail.head? ≠ some '\t'

theorem line_indentation (indent n : Nat) (tail : List Char) (line : Line indent n tail) :
    min ((spaces n ++ tail).takeWhile (· == ' ')).length indent = n := by
  by_cases less : n < indent
  · rw [leading_spaces n tail (line.cut less)]
    omega
  · have least := leading_spaces_least n tail
    have within := line.within
    omega

theorem read_empty_line (indent fuel : Nat) (at' : Cursor) (widest : Nat) (before : List Char) (c : Char)
    (rest : List Char) (known : 0 < indent) (here : at'.rest = c :: rest) (start : at'.column = 0)
    (first : isPlainBreak c = true) :
    emptyLines? indent (fuel + 1) at' widest before =
      emptyLines? indent fuel (at'.nextLine rest 1) (max widest 0) (before ++ [c]) := by
  have unknown : indent ≠ 0 := Nat.ne_of_gt known
  have broken := plain_break_breaks c first
  have crossed := Cursor.read_break at' c rest here first
  have stay : at'.skip 0 = at' := rfl
  have other : c ≠ ' ' := by
    rintro rfl
    exact absurd first (by decide)
  have untabbed : c ≠ '\t' := by
    rintro rfl
    exact absurd first (by decide)
  simp [emptyLines?, unknown, here, start, other, stay, untabbed, broken, crossed]

theorem read_indented_line (indent n fuel : Nat) (at' : Cursor) (widest : Nat) (before tail : List Char)
    (line : Line indent n tail) (here : at'.rest = spaces n ++ tail) (start : at'.column = 0) :
    emptyLines? indent (fuel + 1) at' widest before = some (max widest n, before, at'.skip n) := by
  have unknown : indent ≠ 0 := Nat.ne_of_gt line.known
  have indentation := line_indentation indent n tail line
  have moved := Cursor.skip_rest at' (spaces n) tail n here (spaces_length n).symm
  have unbroken : tail.head?.any isBreak = false := by
    cases first : tail.head? with
    | none => rfl
    | some c => simpa using line.unbroken c first
  simp [emptyLines?, unknown, here, start, indentation, moved, line.untabbed, unbroken, Cursor.skip_column]

theorem read_empty_lines (indent n : Nat) (breaks tail : List Char) (line : Line indent n tail)
    (plain : ∀ c ∈ breaks, isPlainBreak c = true) (fuel : Nat) (at' : Cursor) (widest : Nat) (before : List Char)
    (here : at'.rest = breaks ++ (spaces n ++ tail)) (start : at'.column = 0) (enough : at'.rest.length ≤ fuel) :
    ∃ width stop, emptyLines? indent fuel at' widest before = some (width, before ++ breaks, stop) ∧
      stop.rest = tail ∧ stop.column = n ∧ at'.line ≤ stop.line := by
  induction breaks generalizing fuel at' widest before with
  | nil =>
    rw [List.nil_append] at here
    cases fuel with
    | zero =>
      -- nothing is left
      rw [here] at enough
      simp only [List.length_append, spaces_length, Nat.le_zero_eq, Nat.add_eq_zero_iff, List.length_eq_zero_iff] at enough
      obtain ⟨rfl, rfl⟩ := enough
      exact ⟨widest, at', by simp [emptyLines?], here, start, Nat.le_refl _⟩
    | succ fuel =>
      refine ⟨max widest n, at'.skip n, ?_, Cursor.skip_rest at' _ _ _ here (spaces_length n).symm, ?_, Nat.le_refl _⟩
      · rw [List.append_nil, read_indented_line indent n fuel at' widest before tail line here start]
      · rw [Cursor.skip_column, start, Nat.zero_add]
  | cons c breaks ih =>
    have first := plain c (List.mem_cons_self ..)
    rw [List.cons_append] at here
    rw [here, List.length_cons] at enough
    obtain ⟨fuel, rfl⟩ : ∃ more, fuel = more + 1 := ⟨fuel - 1, by omega⟩
    obtain ⟨width, stop, read, rest, column, lines⟩ := ih (fun d member => plain d (List.mem_cons_of_mem _ member)) fuel
      (at'.nextLine (breaks ++ (spaces n ++ tail)) 1) (max widest 0) (before ++ [c]) rfl rfl (Nat.le_of_succ_le_succ enough)
    refine ⟨width, stop, ?_, rest, column, Nat.le_trans (Nat.le_succ _) lines⟩
    rw [read_empty_line indent fuel at' widest before c _ line.known here start first, read, List.append_assoc]
    rfl

inductive Lines : List Char → Prop
  | none : Lines []
  | line (c : Char) (word : List Char) (b : Char) (breaks rest : List Char) (solid : ∀ d ∈ c :: word, isBreak d = false)
      (untabbed : c ≠ '\t') (plain : ∀ d ∈ b :: breaks, isPlainBreak d = true) (others : Lines rest) :
      Lines (c :: word ++ b :: (breaks ++ rest))

theorem lines_cons (c : Char) (cs : List Char) (solid : isBreak c = false) (untabbed : c ≠ '\t') (present : cs ≠ [])
    (lines : Lines cs) : Lines (c :: cs) := by
  cases lines with
  | none => exact absurd rfl present
  | line d word b breaks rest solid_word _ plain others =>
    refine Lines.line c (d :: word) b breaks rest ?_ untabbed plain others
    intro e member
    rcases List.mem_cons.mp member with rfl | member
    · exact solid
    · exact solid_word e member

theorem split_lines (cs : List Char) (printable : ∀ c ∈ cs, isPrintable c = true) (broken : endsBroken true cs = true) :
    ∃ breaks body, cs = breaks ++ body ∧ (∀ c ∈ breaks, isPlainBreak c = true) ∧ Lines body := by
  induction cs with
  | nil => exact ⟨[], [], rfl, by simp, .none⟩
  | cons c cs ih =>
    have first := printable c (List.mem_cons_self ..)
    have untabbed : c ≠ '\t' := by
      rintro rfl
      exact absurd first (by decide)
    have others : ∀ d ∈ cs, isPrintable d = true := fun d member => printable d (List.mem_cons_of_mem _ member)
    rw [endsBroken] at broken
    by_cases breaks : isBreak c = true
    · rw [breaks] at broken
      obtain ⟨more, body, split, plain, lines⟩ := ih others broken
      refine ⟨c :: more, body, by rw [split, List.cons_append], ?_, lines⟩
      intro d member
      rcases List.mem_cons.mp member with rfl | member
      · exact plain_break _ first breaks
      · exact plain d member
    · have solid : isBreak c = false := by simpa using breaks
      rw [solid] at broken
      cases cs with
      | nil => cases broken
      | cons d cs =>
        obtain ⟨more, body, split, plain, lines⟩ := ih others broken
        cases more with
        | nil =>
          rw [List.nil_append] at split
          exact ⟨[], c :: d :: cs, rfl, by simp, lines_cons c _ solid untabbed (by simp) (split ▸ lines)⟩
        -- the breaks at the start of the rest end the line of `c`
        | cons b breaks =>
          refine ⟨[], c :: d :: cs, rfl, by simp, ?_⟩
          rw [split]
          exact Lines.line c [] b breaks body (by simpa using solid) untabbed plain lines

theorem indent_word (indent : Nat) (word rest : List Char) (solid : ∀ c ∈ word, isBreak c = false) :
    indentAfterBreaks indent false (word ++ rest) = word ++ indentAfterBreaks indent false rest := by
  induction word with
  | nil => rfl
  | cons c word ih =>
    have first := solid c (List.mem_cons_self ..)
    simp [indentAfterBreaks, first, ih fun d member => solid d (List.mem_cons_of_mem _ member)]

theorem indent_breaks (indent : Nat) (broken : Bool) (b : Char) (breaks rest : List Char)
    (plain : ∀ c ∈ b :: breaks, isPlainBreak c = true) :
    indentAfterBreaks indent broken (b :: breaks ++ rest) = b :: breaks ++ indentAfterBreaks indent true rest := by
  induction breaks generalizing b broken with
  | nil =>
    have first := plain_break_breaks b (plain b (List.mem_cons_self ..))
    simp [indentAfterBreaks, first]
  | cons c breaks ih =>
    have first := plain_break_breaks b (plain b (List.mem_cons_self ..))
    have others := ih true c fun d member => plain d (List.mem_cons_of_mem _ member)
    rw [List.cons_append, indentAfterBreaks, if_pos first, others]
    rfl

theorem indent_breaks_first (indent : Nat) (breaks rest : List Char) (plain : ∀ c ∈ breaks, isPlainBreak c = true) :
    indentAfterBreaks indent true (breaks ++ rest) = breaks ++ indentAfterBreaks indent true rest := by
  cases breaks with
  | nil => rfl
  | cons b breaks => exact indent_breaks indent true b breaks rest plain

theorem indent_solid (indent : Nat) (c : Char) (rest : List Char) (solid : isBreak c = false) :
    indentAfterBreaks indent true (c :: rest) = spaces indent ++ c :: indentAfterBreaks indent false rest := by
  simp [indentAfterBreaks, solid]

theorem indent_before_breaks (indent : Nat) (broken : Bool) (cs breaks : List Char)
    (plain : ∀ c ∈ breaks, isPlainBreak c = true) :
    indentAfterBreaks indent broken (cs ++ breaks) = indentAfterBreaks indent broken cs ++ breaks := by
  induction cs generalizing broken with
  | nil =>
    cases breaks with
    | nil => rfl
    | cons b breaks =>
      have kept := indent_breaks indent broken b breaks [] plain
      rw [List.append_nil] at kept
      simpa [indentAfterBreaks] using kept
  | cons c cs ih =>
    rw [List.cons_append, indentAfterBreaks, indentAfterBreaks, ih true, ih false]
    split <;> simp

theorem indent_length (indent : Nat) (broken : Bool) (cs : List Char) :
    cs.length ≤ (indentAfterBreaks indent broken cs).length := by
  induction cs generalizing broken with
  | nil => exact Nat.zero_le _
  | cons c cs ih =>
    have after := ih true
    have inside := ih false
    rw [indentAfterBreaks]
    split <;> simp <;> omega

-- The place where a line begins, behind its indentation; or the place behind the block.
def AtLines (indent n : Nat) (body tail : List Char) (at' : Cursor) : Prop :=
  match body with
  | [] => at'.rest = tail ∧ at'.column = n
  | body => at'.rest = indentAfterBreaks indent false body ++ (spaces n ++ tail) ∧ at'.column = indent

theorem lines_length (indent n : Nat) (body tail : List Char) (at' : Cursor) (lined : AtLines indent n body tail at') :
    body.length ≤ at'.rest.length := by
  cases body with
  | nil => exact Nat.zero_le _
  | cons c body =>
    have kept := indent_length indent false (c :: body)
    rw [lined.1, List.length_append]
    omega

theorem read_up_to_lines (indent n : Nat) (breaks body tail : List Char) (lines : Lines body)
    (plain : ∀ c ∈ breaks, isPlainBreak c = true) (outside : n < indent) (settled : Settled tail) (at' : Cursor)
    (here : at'.rest = breaks ++ (indentAfterBreaks indent true body ++ (spaces n ++ tail))) (start : at'.column = 0) :
    ∃ width stop, emptyLines? indent at'.rest.length at' 0 [] = some (width, breaks, stop) ∧
      AtLines indent n body tail stop ∧ at'.line ≤ stop.line := by
  cases lines with
  | none =>
    have line : Line indent n tail := by
      refine ⟨by omega, by omega, ?_, fun c first => (settled c first).2, ?_⟩
      · intro _ first
        have blank := (settled ' ' first).1
        cases blank
      · intro first
        have blank := (settled '\t' first).1
        cases blank
    obtain ⟨width, stop, read, rest, column, passed⟩ := read_empty_lines indent n breaks tail line plain
      at'.rest.length at' 0 [] here start (Nat.le_refl _)
    exact ⟨width, stop, read, ⟨rest, column⟩, passed⟩
  | line c word b more rest solid untabbed _ _ =>
    have first := solid c (List.mem_cons_self ..)
    let text := c :: word ++ b :: (more ++ rest)
    have line : Line indent indent (indentAfterBreaks indent false text ++ (spaces n ++ tail)) := by
      refine ⟨by omega, Nat.le_refl _, fun less => absurd less (Nat.lt_irrefl _), ?_, ?_⟩
      · simp [text, indentAfterBreaks, first]
      · simpa [text, indentAfterBreaks, first] using untabbed
    have there : at'.rest = breaks ++ (spaces indent ++ (indentAfterBreaks indent false text ++ (spaces n ++ tail))) := by
      rw [here]
      simp [text, indentAfterBreaks, first]
    obtain ⟨width, stop, read, rest, column, passed⟩ := read_empty_lines indent indent breaks _ line plain
      at'.rest.length at' 0 [] there start (Nat.le_refl _)
    exact ⟨width, stop, read, ⟨rest, column⟩, passed⟩

structure Holds (block : BlockText) (whole : List Char) : Prop where
  whole : block.text ++ (block.leading ++ block.trailing) = whole
  solid : ∀ c ∈ block.text.getLast?, isBreak c = false
  broken : ∀ c ∈ block.leading ++ block.trailing, isBreak c = true
  single : block.text ≠ [] → ∃ b, block.leading = [b]

theorem hold_line (block : BlockText) (whole : List Char) (c : Char) (word : List Char) (b : Char) (breaks : List Char)
    (holds : Holds block whole) (solid : ∀ d ∈ c :: word, isBreak d = false)
    (plain : ∀ d ∈ b :: breaks, isPlainBreak d = true) :
    Holds { block.addLine .literal (c :: word) with leading := [b], trailing := breaks }
      (whole ++ (c :: word ++ b :: breaks)) := by
  have text : (block.addLine .literal (c :: word)).text = whole ++ c :: word := by
    rw [← holds.whole]
    simp [BlockText.addLine]
  refine ⟨by simp [text], ?_, fun d member => plain_break_breaks d (plain d member), fun _ => ⟨b, rfl⟩⟩
  intro d last
  have last : d ∈ (c :: word).getLast? := by simpa [text, List.getLast?_append, List.getLast?_cons] using last
  exact solid d (List.mem_of_getLast? last)

theorem read_block_lines (indent n : Nat) (body tail : List Char) (lines : Lines body) (outside : n < indent)
    (settled : Settled tail) (fuel : Nat) (at' : Cursor) (block : BlockText) (whole : List Char)
    (here : AtLines indent n body tail at') (enough : body.length < fuel) (holds : Holds block whole) :
    ∃ read stop, blockLines? .literal indent fuel at' block = some (read, stop) ∧ Holds read (whole ++ body) ∧
      stop.rest = tail ∧ stop.column = n ∧ at'.line ≤ stop.line := by
  induction lines generalizing fuel at' block whole with
  | none =>
    obtain ⟨rest, column⟩ := here
    obtain ⟨fuel, rfl⟩ : ∃ more, fuel = more + 1 := ⟨fuel - 1, by omega⟩
    have out : n ≠ indent := by omega
    refine ⟨block, at', ?_, by rwa [List.append_nil], rest, column, Nat.le_refl _⟩
    simp [blockLines?, column, out]
  | line c word b breaks rest solid untabbed plain others ih =>
    obtain ⟨first, column⟩ := here
    obtain ⟨fuel, rfl⟩ : ∃ more, fuel = more + 1 := ⟨fuel - 1, by omega⟩
    have first : at'.rest = c :: word ++ b :: (breaks ++ (indentAfterBreaks indent true rest ++ (spaces n ++ tail))) := by
      rw [first, indent_word indent _ _ solid, ← List.cons_append, indent_breaks indent false b breaks rest plain]
      simp
    have ended := plain_break_breaks b (plain b (List.mem_cons_self ..))
    have taken : at'.rest.takeWhile (!isBreak ·) = c :: word := by
      rw [first, List.takeWhile_append_of_pos (fun d member => by simp [solid d member])]
      simp [ended]
    have stop := Cursor.skip_rest at' (c :: word) _ _ first rfl
    have crossed := Cursor.read_break (at'.skip (c :: word).length) b _ stop (plain b (List.mem_cons_self ..))
    have plain_rest : ∀ d ∈ breaks, isPlainBreak d = true := fun d member => plain d (List.mem_cons_of_mem _ member)
    obtain ⟨width, next, skipped, stands, passed⟩ := read_up_to_lines indent n breaks rest tail others plain_rest outside
      settled ((at'.skip (c :: word).length).nextLine _ 1) rfl rfl
    obtain ⟨read, stop, following, held, final⟩ := ih fuel next
      { block.addLine .literal (c :: word) with leading := [b], trailing := breaks } _ stands
      (by simp at enough; omega) (hold_line block whole c word b breaks holds solid plain)
    have line : at'.line + 1 ≤ next.line := passed
    refine ⟨read, stop, ?_, ?_, final.1, final.2.1, by omega⟩
    · have present : at'.rest.isEmpty = false := by rw [first]; rfl
      rw [blockLines?]
      simp only [column, present, Cursor.span, taken, crossed, skipped, following, beq_self_eq_true, Bool.not_false,
        Bool.and_self, if_true]
    · simpa using held

theorem trailing_breaks (text breaks : List Char) (solid : ∀ c ∈ text.getLast?, isBreak c = false)
    (broken : ∀ c ∈ breaks, isBreak c = true) : (text ++ breaks).reverse.takeWhile isBreak = breaks.reverse := by
  have stop : text.reverse.takeWhile isBreak = [] := by
    cases reversed : text.reverse with
    | nil => rfl
    | cons c before =>
      have last : c ∈ text.getLast? := by rw [← List.head?_reverse, reversed]; rfl
      simp [solid c last]
  rw [List.reverse_append, List.takeWhile_append_of_pos (by simpa using broken), stop, List.append_nil]

theorem hold_split (block : BlockText) (text breaks : List Char) (holds : Holds block (text ++ breaks))
    (solid : ∀ c ∈ text.getLast?, isBreak c = false) (broken : ∀ c ∈ breaks, isBreak c = true) :
    block.text = text ∧ block.leading ++ block.trailing = breaks := by
  have one := trailing_breaks block.text _ holds.solid holds.broken
  have other := trailing_breaks text breaks solid broken
  rw [holds.whole, other, List.reverse_inj] at one
  refine ⟨?_, one.symm⟩
  have whole := holds.whole
  rw [← one] at whole
  exact List.append_cancel_right whole

inductive Ending (cs : List Char) : Prop
  | solid (mark : chompingMark cs = ['-']) (last : ∀ c ∈ cs.getLast?, isBreak c = false)
  | single (mark : chompingMark cs = []) (text : List Char) (b : Char) (split : cs = text ++ [b]) (present : text ≠ [])
      (last : ∀ c ∈ text.getLast?, isBreak c = false) (broken : isBreak b = true)
  | several (mark : chompingMark cs = ['+']) (before : List Char) (b : Char) (split : cs = before ++ [b])
      (broken : isBreak b = true) (more : ∀ c ∈ before.getLast?, isBreak c = true)

theorem ending (cs : List Char) (present : cs ≠ []) : Ending cs := by
  obtain ⟨before, last, rfl⟩ : ∃ before last, cs = before ++ [last] :=
    ⟨_, _, (List.dropLast_concat_getLast present).symm⟩
  by_cases broken : isBreak last = true
  · by_cases several : before.getLast?.all isBreak = true
    · refine .several (by simp [chompingMark, broken, several]) before last rfl broken ?_
      intro c held
      rw [Option.mem_def] at held
      simpa [held] using several
    · refine .single (by simp [chompingMark, broken, several]) before last rfl ?_ ?_ broken
      · rintro rfl
        exact several rfl
      · intro c held
        rw [Option.mem_def] at held
        simpa [held] using several
  · exact .solid (by simp [chompingMark, broken]) (by simpa using broken)

def chomping (cs : List Char) : Chomping :=
  if chompingMark cs = ['-'] then .strip else if chompingMark cs = ['+'] then .keep else .clip

def withBreaks (cs extra : List Char) : List Char :=
  if style cs = .literal ∧ chompingMark cs = ['+'] then cs ++ extra else cs

def closing (cs : List Char) : List Char := if cs.getLast?.any isBreak then [] else ['\n']

theorem closing_breaks (cs : List Char) : ∀ c ∈ closing cs, isPlainBreak c = true := by
  intro c member
  rw [closing] at member
  split at member
  · cases member
  · rw [List.mem_singleton.mp member]
    rfl

theorem chomp_held (cs extra : List Char) (block : BlockText) (literal : style cs = .literal) (present : cs ≠ [])
    (plain : ∀ c ∈ extra, isPlainBreak c = true) (holds : Holds block (cs ++ closing cs ++ extra)) :
    block.chomp (chomping cs) = withBreaks cs extra := by
  have broken : ∀ c ∈ extra, isBreak c = true := fun c member => plain_break_breaks c (plain c member)
  cases ending cs present with
  | solid mark last =>
    have split := hold_split block cs (closing cs ++ extra) (by rwa [← List.append_assoc]) last (by
      intro c member
      rcases List.mem_append.mp member with closed | member
      · exact plain_break_breaks c (closing_breaks cs c closed)
      · exact broken c member)
    simp [chomping, withBreaks, mark, BlockText.chomp, split.1]
  | single mark text b split_cs some_text last ends =>
    have none : closing cs = [] := by simp [closing, split_cs, ends]
    rw [none, List.append_nil, split_cs, List.append_assoc] at holds
    have split := hold_split block text ([b] ++ extra) holds last (by
      intro c member
      rcases List.mem_append.mp member with here | member
      · rw [List.mem_singleton.mp here]
        exact ends
      · exact broken c member)
    obtain ⟨first, single⟩ := holds.single (by rwa [split.1])
    have same : first = b := by
      have breaks := split.2
      rw [single] at breaks
      simpa using (List.cons.inj breaks).1
    simp [chomping, withBreaks, mark, BlockText.chomp, split.1, single, same, ← split_cs]
  | several mark before b split ends =>
    have none : closing cs = [] := by simp [closing, split, ends]
    have whole := holds.whole
    rw [none, List.append_nil] at whole
    simp [chomping, withBreaks, mark, literal, BlockText.chomp, whole]

theorem read_block_header (cs rest : List Char) (at' : Cursor) (present : cs ≠ [])
    (here : at'.rest = indentMark cs ++ chompingMark cs ++ '\n' :: rest) :
    ∃ stop, blockHeader? at' = some (chomping cs, if indentMark cs = [] then none else some 2, stop) ∧
      stop.rest = '\n' :: rest ∧ stop.line = at'.line := by
  have mark : indentMark cs = [] ∨ indentMark cs = ['2'] := by
    rw [indentMark]
    split <;> simp
  refine ⟨at'.skip (indentMark cs ++ chompingMark cs).length, ?_, Cursor.skip_rest at' _ _ _ here rfl, rfl⟩
  have two : increment? '2' = some 2 := rfl
  have digit : Char.isDigit '2' = true := rfl
  have strip : chomping? '-' = some .strip := rfl
  have keep : chomping? '+' = some .keep := rfl
  have feed : chomping? '\n' = none ∧ Char.isDigit '\n' = false := ⟨rfl, rfl⟩
  have unmarked : chomping? '2' = none := rfl
  cases ending cs present with
  | solid chomped =>
    rcases mark with mark | mark <;> rw [mark, chomped] at here <;>
      simp [blockHeader?, here, chomping, chomped, mark, two, digit, strip, feed, unmarked]
  | single chomped =>
    rcases mark with mark | mark <;> rw [mark, chomped] at here <;>
      simp [blockHeader?, here, chomping, chomped, mark, two, digit, feed, unmarked, Cursor.skip_zero]
  | several chomped =>
    rcases mark with mark | mark <;> rw [mark, chomped] at here <;>
      simp [blockHeader?, here, chomping, chomped, mark, two, digit, keep, feed, unmarked]

theorem skip_header_end (at' : Cursor) (rest : List Char) (here : at'.rest = '\n' :: rest) :
    at'.skipLineEnd? = some (at'.nextLine rest 1) := by
  have stay : at'.skipWhile isBlank = at' := by simp [Cursor.skipWhile, Cursor.span, here, isBlank, Cursor.skip_zero]
  have crossed : at'.skipBreak = at'.nextLine rest 1 := by rw [Cursor.skipBreak, Cursor.read_break at' _ rest here rfl]
  simp [Cursor.skipLineEnd?, stay, here, lineEnds, isBreak, crossed]

theorem read_first_indentation (h : Nat) (c : Char) (rest : List Char) (solid : isBreak c = false) (space : c ≠ ' ')
    (untabbed : c ≠ '\t') (at' : Cursor) (start : at'.column = 0)
    (here : at'.rest = spaces (h + 2) ++ c :: rest) :
    emptyLines? 0 at'.rest.length at' 0 [] = some (h + 2, [], at'.skip (h + 2)) := by
  obtain ⟨fuel, enough⟩ : ∃ more, at'.rest.length = more + 1 := ⟨at'.rest.length - 1, by rw [here]; simp [spaces]; omega⟩
  have count : (at'.rest.takeWhile (· == ' ')).length = h + 2 := by
    rw [here, leading_spaces (h + 2) (c :: rest) (by simpa using space)]
  have there : (at'.skip (h + 2)).rest = c :: rest := Cursor.skip_rest at' _ _ _ here (spaces_length _).symm
  have column : (at'.skip (h + 2)).column = h + 2 := by rw [Cursor.skip_column, start, Nat.zero_add]
  rw [enough, emptyLines?]
  simp [count, there, column, solid, untabbed]

theorem closed_broken (cs extra : List Char) (plain : ∀ c ∈ extra, isPlainBreak c = true) :
    endsBroken true (cs ++ closing cs ++ extra) = true := by
  rw [ends_broken, List.getLast?_append]
  cases last : extra.getLast? with
  | some c => exact plain_break_breaks c (plain c (List.mem_of_getLast? last))
  | none =>
    rw [Option.none_or, closing]
    split
    · rename_i broken
      rw [List.append_nil]
      cases held : cs.getLast? with
      | none => rfl
      | some c => simpa [held] using broken
    · rw [List.getLast?_append]
      rfl

theorem read_before_lines (h n : Nat) (cs more lead body tail : List Char) (present : cs ≠ [])
    (split : cs ++ more = lead ++ body) (lines : Lines body) (printable : ∀ c ∈ cs, isPrintable c = true)
    (plain : ∀ c ∈ lead, isPlainBreak c = true) (outside : n < h + 2) (settled : Settled tail) (at' : Cursor)
    (start : at'.column = 0)
    (here : at'.rest = indentAfterBreaks (h + 2) true (lead ++ body) ++ (spaces n ++ tail)) (indent : Nat)
    (given : indent = if indentMark cs = [] then 0 else h + 2) :
    ∃ width stop, emptyLines? indent at'.rest.length at' 0 [] = some (width, lead, stop) ∧
      (if indent = 0 then max width (max (h + 1) 1) else indent) = h + 2 ∧
      AtLines (h + 2) n body tail stop ∧ at'.line ≤ stop.line := by
  by_cases shown : indentMark cs = []
  · obtain ⟨c, rest, rfl⟩ : ∃ c rest, cs = c :: rest := List.exists_cons_of_ne_nil present
    have word : c ≠ ' ' ∧ isBreak c = false := by simpa [indentMark, isSpace] using shown
    have untabbed : c ≠ '\t' := by
      rintro rfl
      exact absurd (printable '\t' (List.mem_cons_self ..)) (by decide)
    rw [if_pos shown] at given
    subst given
    cases lead with
    | cons b lead =>
      -- the text starts with a word, not with a break
      have broken := plain_break_breaks b (plain b (List.mem_cons_self ..))
      rw [← (List.cons.inj split).1, word.2] at broken
      cases broken
    | nil =>
      rw [List.cons_append, List.nil_append] at split
      subst split
      have there : at'.rest = spaces (h + 2) ++ c :: (indentAfterBreaks (h + 2) false (rest ++ more) ++
          (spaces n ++ tail)) := by
        rw [here, List.nil_append, indent_solid _ _ _ word.2]
        simp
      refine ⟨h + 2, at'.skip (h + 2), read_first_indentation h c _ word.2 word.1 untabbed at' start there, ?_, ⟨?_, ?_⟩,
        Nat.le_refl _⟩
      · simp
      · rw [Cursor.skip_rest at' _ _ _ there (spaces_length _).symm]
        simp [indentAfterBreaks, word.2]
      · rw [Cursor.skip_column, start, Nat.zero_add]
  · rw [if_neg shown] at given
    subst given
    rw [indent_breaks_first _ _ _ plain, List.append_assoc] at here
    obtain ⟨width, stop, read, lined, line⟩ := read_up_to_lines (h + 2) n lead body tail lines plain outside settled at'
      here start
    exact ⟨width, stop, read, by simp, lined, line⟩

theorem read_literal (h n : Nat) (cs extra tail : List Char) (at' : Cursor) (literal : style cs = .literal)
    (present : cs ≠ []) (printable : ∀ c ∈ cs, isPrintable c = true) (plain : ∀ c ∈ extra, isPlainBreak c = true)
    (outside : n < h + 2) (settled : Settled tail)
    (here : at'.rest = indentMark cs ++ chompingMark cs ++ '\n' :: indentAfterBreaks (h + 2) true cs ++
      closing cs ++ (extra ++ (spaces n ++ tail))) :
    ∃ stop, blockText? .literal (some h) at' = some (withBreaks cs extra, stop) ∧ stop.rest = tail ∧
      stop.column = n ∧ at'.line < stop.line := by
  have here : at'.rest = indentMark cs ++ chompingMark cs ++ '\n' ::
      (indentAfterBreaks (h + 2) true (cs ++ closing cs ++ extra) ++ (spaces n ++ tail)) := by
    rw [here, indent_before_breaks _ _ _ _ plain, indent_before_breaks _ _ _ _ (closing_breaks cs)]
    simp
  have whole_printable : ∀ c ∈ cs ++ closing cs ++ extra, isPrintable c = true := by
    intro c member
    rcases List.mem_append.mp member with member | member
    · rcases List.mem_append.mp member with member | member
      · exact printable c member
      · exact plain_break_printable c (closing_breaks cs c member)
    · exact plain_break_printable c (plain c member)
  obtain ⟨lead, body, split, lead_plain, lines⟩ := split_lines _ whole_printable (closed_broken cs extra plain)
  rw [split] at here
  obtain ⟨head, header, head_rest, head_line⟩ := read_block_header cs _ at' present here
  let next := head.nextLine (indentAfterBreaks (h + 2) true (lead ++ body) ++ (spaces n ++ tail)) 1
  obtain ⟨width, first, skipped, indent, lined, first_line⟩ := read_before_lines h n cs (closing cs ++ extra) lead body tail
    present (by rw [← split, List.append_assoc]) lines printable lead_plain outside settled next rfl rfl _ rfl
  have start : Holds { trailing := lead } lead :=
    ⟨rfl, by simp, fun c member => plain_break_breaks c (lead_plain c member), by simp⟩
  obtain ⟨block, stop, read, holds, rest, column, line⟩ := read_block_lines (h + 2) n body tail lines outside settled
    (first.rest.length + 1) first _ lead lined
    (Nat.lt_succ_of_le (lines_length _ n body tail first lined)) start
  rw [← split] at holds
  refine ⟨stop, ?_, rest, column, ?_⟩
  · have chomped := chomp_held cs extra block literal present plain holds
    have increment : ((if indentMark cs = [] then none else some 2).map (h + ·)).getD 0 =
        if indentMark cs = [] then 0 else h + 2 := by
      split <;> rfl
    simp only [blockText?, header, Option.bind_eq_bind, Option.bind_some, skip_header_end head _ head_rest,
      Option.getD_some, increment]
    rw [show emptyLines? _ _ (head.nextLine _ 1) 0 [] = _ from skipped]
    simp only [Option.bind_some, Option.map_some, Option.getD_some, indent, read, chomped]
    rfl
  · have passed : head.line + 1 ≤ first.line := first_line
    omega

end ResourceRoutes.Yaml.Text
