import ResourceRoutes.Proofs.Source.Token.Reread
import ResourceRoutes.Proofs.Source.Token.Sound
set_option autoImplicit false

namespace ResourceRoutes.Source

open ResourceRoutes.Source.Tree (Reread RereadAll)

def ReadsTo (before : List Char) (read : List Tree) (after : List Char) : Prop :=
  ∃ steps, steps + after.length ≤ before.length ∧ ∀ fuel groups earlier,
    readTrees? (fuel + steps) before groups earlier = readTrees? fuel after groups (read.reverse ++ earlier)

theorem reads_nothing (cs : List Char) : ReadsTo cs [] cs := ⟨0, by omega, fun _ _ _ => rfl⟩

theorem ReadsTo.trans {before middle after : List Char} {first second : List Tree} (one : ReadsTo before first middle)
    (two : ReadsTo middle second after) : ReadsTo before (first ++ second) after := by
  obtain ⟨steps, less, runs⟩ := one
  obtain ⟨more, less_more, runs_more⟩ := two
  refine ⟨more + steps, by omega, ?_⟩
  intro fuel groups earlier
  rw [← Nat.add_assoc, runs, runs_more, List.reverse_append, List.append_assoc]

theorem reads_blank (cs : List Char) : ReadsTo (' ' :: cs) [] cs := by
  refine ⟨0, by simp, ?_⟩
  intro fuel groups earlier
  cases fuel with
  | zero => rfl
  | succ fuel => rfl

theorem no_comment_prefix (cs mark more : List Char) (comment : mark ∈ ["//".toList, "/*".toList])
    (no_comment : startsComment cs = false) : (mark ++ more).isPrefixOf cs = false := by
  rw [Bool.eq_false_iff]
  intro begins
  obtain ⟨rest, rfl⟩ := List.isPrefixOf_iff_prefix.mp begins
  rw [startsComment, Bool.or_eq_false_iff] at no_comment
  simp only [List.mem_cons, List.not_mem_nil, or_false] at comment
  obtain rfl | rfl := comment
  · cases no_comment.1
  · cases no_comment.2

theorem undisturbed (c : Char) (rest : List Char) (no_space : isSpace c = false)
    (no_comment : startsComment (c :: rest) = false) (fuel : Nat) :
    skipSpace fuel (c :: rest) = c :: rest ∧ docComment? (c :: rest) = none := by
  have none_begins (mark more : List Char) (comment : mark ∈ ["//".toList, "/*".toList]) :
      (mark ++ more).isPrefixOf (c :: rest) = false := no_comment_prefix (c :: rest) mark more comment no_comment
  constructor
  · cases fuel with
    | zero => rfl
    | succ fuel =>
      have no_line : startsLineComment (c :: rest) = false := by
        have line : "//".toList.isPrefixOf (c :: rest) = false := none_begins "//".toList [] (by decide)
        rw [startsLineComment, line]
        rfl
      have no_block : startsBlockComment (c :: rest) = false := by
        have block : "/*".toList.isPrefixOf (c :: rest) = false := none_begins "/*".toList [] (by decide)
        have empty : "/**/".toList.isPrefixOf (c :: rest) = false := none_begins "/*".toList "*/".toList (by decide)
        rw [startsBlockComment, block, empty]
        rfl
      rw [skipSpace, no_line, no_block, no_space]
      rfl
  · have inner_line : "//!".toList.isPrefixOf (c :: rest) = false := none_begins "//".toList ['!'] (by decide)
    have inner_block : "/*!".toList.isPrefixOf (c :: rest) = false := none_begins "/*".toList ['!'] (by decide)
    have line : "///".toList.isPrefixOf (c :: rest) = false := none_begins "//".toList ['/'] (by decide)
    have block : "/**".toList.isPrefixOf (c :: rest) = false := none_begins "/*".toList ['*'] (by decide)
    rw [docComment?]
    simp only [inner_line, inner_block, line, block]
    rfl

theorem reads_token (c : Char) (rest after : List Char) (tree : Tree) (n : Nat) (no_space : isSpace c = false)
    (no_comment : startsComment (c :: rest) = false) (no_opening : opening? c = none) (no_closing : closing? c = none)
    (read : token? (c :: rest) = some (tree, n)) (left : (c :: rest).drop n = after) (taken : 0 < n)
    (extent : n ≤ (c :: rest).length) : ReadsTo (c :: rest) [tree] after := by
  refine ⟨1, ?_, ?_⟩
  · rw [← left, List.length_drop]
    omega
  · intro fuel groups earlier
    obtain ⟨skipped, undocumented⟩ := undisturbed c rest no_space no_comment ((c :: rest).length + 1)
    rw [readTrees?, skipped]
    simp only [undocumented, no_opening, no_closing, read, left]
    rfl

theorem reads_word (tree : Tree) (after : List Char) (word : tree.Word) (stops : Stops after) :
    ReadsTo (tree.text ++ after) [tree] after := by
  have read := word.takes after stops
  obtain ⟨c, first, begins⟩ := word.begins
  generalize tree.text = text at read first
  cases text with
  | nil => cases first
  | cons d text =>
    cases first
    simp only [beginsToken, Bool.and_eq_true, Bool.not_eq_true', Option.isNone_iff_eq_none] at begins
    obtain ⟨⟨⟨no_space, no_opening⟩, no_closing⟩, no_mark⟩ := begins
    have no_slash : c ≠ '/' := by
      rintro rfl
      cases no_mark
    have no_comment : startsComment (c :: (text ++ after)) = false := by
      simp [startsComment, List.isPrefixOf, no_slash.symm]
    apply reads_token c (text ++ after) after tree _ no_space no_comment no_opening no_closing read
    · rw [← List.cons_append, List.drop_left]
    · exact Nat.succ_pos _
    · rw [← List.cons_append, List.length_append]
      omega

theorem sign_no_literal (c : Char) (after : List Char) (sign : isPunctuation c = true) (no_tick : c ≠ '\'') :
    Lexeme.literal? (c :: after) = none := by
  have each : ∀ c ∈ "~!@#$%^&*-=+|;:,<.>/?'".toList, c.isDigit = false ∧ (c ≠ '\'' → c ∉ Lexeme.quoteStarts) :=
    Lexeme.of_each (by decide)
  obtain ⟨no_digit, unquoted⟩ := each c (List.contains_iff_mem.mp sign)
  obtain ⟨no_string, no_character⟩ := Lexeme.no_quotes (c :: after) (by
    intro d first
    cases first
    exact unquoted no_tick)
  obtain ⟨no_float, no_int⟩ := Lexeme.no_number (c :: after) (by
    intro d first
    cases first
    exact no_digit)
  rw [Lexeme.literal?, no_string, no_character, no_float, no_int]

theorem reads_sign (c : Char) (after : List Char) (sign : isPunctuation c = true) (no_tick : c ≠ '\'')
    (no_comment : startsComment (c :: after) = false) :
    ReadsTo (c :: after) [.punct c (startsPunctuation after)] after := by
  have each : ∀ c ∈ "~!@#$%^&*-=+|;:,<.>/?'".toList, opening? c = none ∧ closing? c = none := Lexeme.of_each (by decide)
  obtain ⟨no_opening, no_closing⟩ := each c (List.contains_iff_mem.mp sign)
  apply reads_token c after after _ 1 (punctuation_no_space c sign) no_comment no_opening no_closing _ rfl Nat.one_pos
    (by simp)
  have starts : startsPunctuation (c :: after) = true := by
    rw [startsPunctuation, no_comment, List.head?_cons, Option.any_some, sign]
    rfl
  unfold token?
  rw [sign_no_literal c after sign no_tick]
  simp [starts]

theorem reads_group (delimiter : Delimiter) (opening closing : Char) (inner after : List Char) (content : List Tree)
    (opens : opening? opening = some delimiter) (closes : closing? closing = some delimiter)
    (inside : ReadsTo inner content (closing :: after)) :
    ReadsTo (opening :: inner) [.group delimiter content] after := by
  have plain_opening : isSpace opening = false ∧ opening ≠ '/' := by
    constructor
    · unfold opening? at opens
      split at opens <;> first | rfl | cases opens
    · rintro rfl
      cases opens
  have plain_closing : isSpace closing = false ∧ closing ≠ '/' ∧ opening? closing = none := by
    refine ⟨?_, ?_, ?_⟩
    · unfold closing? at closes
      split at closes <;> first | rfl | cases closes
    · rintro rfl
      cases closes
    · unfold closing? at closes
      split at closes <;> first | rfl | cases closes
  have no_comment (c : Char) (rest : List Char) (no_slash : c ≠ '/') : startsComment (c :: rest) = false := by
    simp [startsComment, List.isPrefixOf, no_slash.symm]
  obtain ⟨steps, less, runs⟩ := inside
  refine ⟨steps + 2, by simp only [List.length_cons] at less ⊢; omega, ?_⟩
  intro fuel groups earlier
  have opened : readTrees? (fuel + 1 + steps + 1) (opening :: inner) groups earlier =
      readTrees? (fuel + 1 + steps) inner ((delimiter, earlier) :: groups) [] := by
    obtain ⟨skipped, undocumented⟩ := undisturbed opening inner plain_opening.1
      (no_comment opening inner plain_opening.2) ((opening :: inner).length + 1)
    rw [readTrees?, skipped]
    simp only [undocumented, opens]
  have closed : readTrees? (fuel + 1) (closing :: after) ((delimiter, earlier) :: groups) content.reverse =
      readTrees? fuel after groups (.group delimiter content :: earlier) := by
    obtain ⟨skipped, undocumented⟩ := undisturbed closing after plain_closing.1
      (no_comment closing after plain_closing.2.1) ((closing :: after).length + 1)
    rw [readTrees?, skipped]
    simp only [undocumented, closes, plain_closing.2.2, if_true, List.reverse_reverse]
  have total : fuel + (steps + 2) = fuel + 1 + steps + 1 := by omega
  rw [total, opened, runs, List.append_nil, closed]
  rfl

-- What follows a token: the end, a blank or the end of a group; or, behind a joint sign, what makes no comment of it.
def Follows (tree : Tree) (cs : List Char) : Prop :=
  (∀ c ∈ cs.head?, c ∈ " )]".toList) ∨
    tree.isJoint = true ∧ (tree = .punct '/' true → ∀ c ∈ cs.head?, c ≠ '/' ∧ c ≠ '*')

def StaysJoint (tree read : Tree) (cs : List Char) : Prop :=
  tree.isJoint = true → ∀ d ∈ cs.head?, isPunctuation d = true → d ≠ '/' → read.isJoint = true

theorem tidy_behind_head (P : Char → Prop) (shown cs : List Char) (unglued : gluesAfter shown = false)
    (of_stops : ∀ c ∈ " <>)],:;".toList, P c) (head : ∀ c ∈ cs.head?, P c) : ∀ c ∈ (tidyBehind shown cs).head?, P c := by
  cases cs with
  | nil =>
    intro c first
    cases first
  | cons d rest =>
    by_cases blank : d = ' '
    · rw [blank]
      obtain ⟨left_out, glued⟩ | kept := tidy_behind_blank shown rest
      · rw [unglued] at glued
        obtain ⟨e, others, rfl, stop⟩ := glues_before_cases rest (glued.resolve_left (by decide))
        have each : ∀ c ∈ "<>)],:;".toList, c ≠ ' ' := Lexeme.of_each (by decide)
        rw [left_out, tidy_behind_sign shown e others (each e stop)]
        intro c first
        cases first
        exact of_stops e (List.mem_cons_of_mem ' ' stop)
      · rw [kept]
        intro c first
        cases first
        exact of_stops ' ' (by decide)
    · rw [tidy_behind_sign shown d rest blank]
      intro c first
      cases first
      exact head d rfl

theorem glues_after_shut (word shown : List Char) (shut : Lexeme.Shut word) : gluesAfter (word.reverse ++ shown) = false := by
  obtain ⟨front, c, rfl, open_edge⟩ := shut
  rw [List.reverse_append, List.reverse_singleton, List.singleton_append, List.cons_append, Bool.eq_false_iff]
  intro glued
  obtain ⟨d, others, same, listed⟩ := glues_after_cases _ glued
  have each : ∀ c ∈ ":&<([".toList, c ∈ Lexeme.edges := Lexeme.of_each (by decide)
  rw [(List.cons.inj same).1] at open_edge
  exact open_edge (each d listed)

theorem shut_closed (word : List Char) (shut : Lexeme.Shut word) : word.getLast? ≠ some ' ' := by
  obtain ⟨front, c, rfl, open_edge⟩ := shut
  rw [List.getLast?_concat]
  intro blank
  rw [Option.some.inj blank] at open_edge
  exact open_edge (by decide)

theorem word_read (tree : Tree) (spelled : tree.Spelled) (shown cs : List Char)
    (ends : ∀ c ∈ cs.head?, c ∈ " )]".toList) :
    ∃ shown', ReadsTo (tidyBehind shown (tree.text ++ cs)) [tree.tidied] (tidyBehind shown' cs) := by
  obtain ⟨tidied_word, same⟩ := spelled.tidied_word
  have begins : ∃ c ∈ tree.text.head?, c ≠ ':' ∧ c ≠ ' ' := by
    obtain ⟨c, first, begins⟩ := spelled.word.begins
    refine ⟨c, first, ?_, ?_⟩
    · rintro rfl
      revert begins
      decide
    · rintro rfl
      revert begins
      decide
  rw [tidy_behind_word shown tree.text cs begins (shut_closed _ spelled.word.shut), ← same]
  refine ⟨_, reads_word tree.tidied _ tidied_word ?_⟩
  apply tidy_behind_head _ _ cs (glues_after_shut _ shown tidied_word.shut) (fun c stop => stop)
  intro c first
  have each : ∀ c ∈ " )]".toList, c ∈ " <>)],:;".toList := Lexeme.of_each (by decide)
  exact each c (ends c first)

theorem sign_no_blank (c : Char) (sign : isPunctuation c = true) : c ≠ ' ' := by
  rintro rfl
  cases sign

theorem starts_sign (shown cs : List Char) (d : Char) (first : d ∈ cs.head?) (sign : isPunctuation d = true)
    (no_slash : d ≠ '/') : startsPunctuation (tidyBehind shown cs) = true := by
  cases cs with
  | nil => cases first
  | cons e rest =>
    cases first
    rw [tidy_behind_sign shown d rest (sign_no_blank d sign)]
    simp [startsPunctuation, startsComment, List.isPrefixOf, no_slash.symm, sign]

theorem sign_read (c : Char) (joint : Bool) (shown cs : List Char) (sign : isPunctuation c = true) (no_tick : c ≠ '\'')
    (follows : Follows (.punct c joint) cs) :
    ∃ joint' shown', StaysJoint (.punct c joint) (.punct c joint') cs ∧
      ReadsTo (tidyBehind shown (c :: cs)) [.punct c joint'] (tidyBehind shown' cs) := by
  rw [tidy_behind_sign shown c cs (sign_no_blank c sign)]
  refine ⟨_, _, fun _ d first sign no_slash => starts_sign _ cs d first sign no_slash, reads_sign c _ sign no_tick ?_⟩
  by_cases slash : c = '/'
  · rw [slash]
    have apart := tidy_behind_head (fun c => c ≠ '/' ∧ c ≠ '*') ('/' :: shown) cs rfl (Lexeme.of_each (by decide)) ?_
    · cases left : tidyBehind ('/' :: shown) cs with
      | nil => rfl
      | cons d rest =>
        obtain ⟨no_slash, no_star⟩ := apart d (by rw [left]; rfl)
        simp [startsComment, List.isPrefixOf, no_slash.symm, no_star.symm]
    · intro d first
      cases follows with
      | inl ends =>
        have each : ∀ c ∈ " )]".toList, c ≠ '/' ∧ c ≠ '*' := Lexeme.of_each (by decide)
        exact each d (ends d first)
      | inr joined =>
        have run : joint = true := joined.1
        exact joined.2 (by rw [slash, run]) d first
  · simp [startsComment, List.isPrefixOf, Ne.symm slash]

theorem gap_read (shown cs : List Char) : ∃ shown', ReadsTo (tidyBehind shown (' ' :: cs)) [] (tidyBehind shown' cs) := by
  obtain ⟨left_out, -⟩ | kept := tidy_behind_blank shown cs
  · rw [left_out]
    exact ⟨shown, reads_nothing _⟩
  · rw [kept]
    exact ⟨' ' :: shown, reads_blank _⟩

theorem delimited_read (delimiter : Delimiter) (opening closing : Char) (shown inside inner cs : List Char)
    (content : List Tree) (opens : opening? opening = some delimiter) (closes : closing? closing = some delimiter)
    (reads : ReadsTo (tidyBehind (opening :: shown) inner) content (tidyBehind inside (closing :: cs))) :
    ReadsTo (tidyBehind shown (opening :: inner)) [.group delimiter content] (tidyBehind (closing :: inside) cs) := by
  have solid_opening : opening ≠ ' ' := by
    rintro rfl
    cases opens
  have solid_closing : closing ≠ ' ' := by
    rintro rfl
    cases closes
  rw [tidy_behind_sign inside closing cs solid_closing] at reads
  rw [tidy_behind_sign shown opening inner solid_opening]
  exact reads_group delimiter opening closing _ _ content opens closes reads

theorem text_begins (tree : Tree) (sound : tree.Sound) :
    ∃ c rest, tree.text = c :: rest ∧ c ≠ ' ' ∧ c ≠ byteOrderMark ∧
      (¬ Tree.OpensComment (.punct '/' true) tree → c ≠ '/' ∧ c ≠ '*') := by
  cases sound with
  | word _ spelled =>
    obtain ⟨c, first, begins⟩ := spelled.word.begins
    generalize tree.text = text at first
    cases text with
    | nil => cases first
    | cons d rest =>
      cases first
      have other (e : Char) (none_begins : beginsToken e = false) : c ≠ e := by
        rintro rfl
        rw [begins] at none_begins
        cases none_begins
      exact ⟨c, rest, rfl, other ' ' (by decide), other byteOrderMark (by decide),
        fun _ => ⟨other '/' (by decide), other '*' (by decide)⟩⟩
  | sign c joint sign no_tick =>
    refine ⟨c, [], rfl, ?_, ?_, ?_⟩
    · rintro rfl
      cases sign
    · rintro rfl
      revert sign
      decide
    · intro apart
      exact ⟨fun slash => apart ⟨rfl, rfl, .inl slash⟩, fun star => apart ⟨rfl, rfl, .inr star⟩⟩
  | group delimiter content inside uncommented =>
    cases delimiter with
    | parens => exact ⟨'(', _, rfl, by decide, by decide, fun _ => by decide⟩
    | brackets => exact ⟨'[', _, rfl, by decide, by decide, fun _ => by decide⟩
    | braces =>
      cases content with
      | nil => exact ⟨_, _, rfl, by decide, by decide, fun _ => by decide⟩
      | cons tree rest => exact ⟨_, _, rfl, by decide, by decide, fun _ => by decide⟩

theorem follows_joint (tree next : Tree) (rest : List Char) (joint : tree.isJoint = true) (sound : next.Sound)
    (apart : ¬ Tree.OpensComment tree next) : Follows tree (next.text ++ rest) := by
  refine .inr ⟨joint, ?_⟩
  rintro rfl
  obtain ⟨c, others, same, -, -, no_comment⟩ := text_begins next sound
  rw [same]
  intro d first
  cases first
  exact no_comment apart

theorem text_of_several (tree next : Tree) (rest : List Tree) :
    Tree.textOfAll (tree :: next :: rest) =
      tree.text ++ ((if tree.isJoint then [] else [' ']) ++ Tree.textOfAll (next :: rest)) := by
  rw [Tree.textOfAll, List.append_assoc]
  nofun

theorem text_starts (tree : Tree) (rest : List Tree) : ∃ more, Tree.textOfAll (tree :: rest) = tree.text ++ more := by
  cases rest with
  | nil => exact ⟨[], (List.append_nil _).symm⟩
  | cons next rest => exact ⟨_, text_of_several tree next rest⟩

theorem sign_in_front (next : Tree) (rest : List Tree) (cs : List Char) (sound : next.Sound) (c : Char) (joint : Bool)
    (following : (next :: rest).head? = some (.punct c joint)) :
    c ∈ (Tree.textOfAll (next :: rest) ++ cs).head? ∧ isPunctuation c = true := by
  cases following
  obtain ⟨more, starts⟩ := text_starts (.punct c joint) rest
  rw [starts]
  cases sound with
  | word _ spelled => cases spelled
  | sign _ _ sign _ => exact ⟨rfl, sign⟩

mutual
theorem tree_read (tree : Tree) (sound : tree.Sound) (shown cs : List Char) (follows : Follows tree cs) :
    ∃ read shown', Reread tree read ∧ StaysJoint tree read cs ∧
      ReadsTo (tidyBehind shown (tree.text ++ cs)) [read] (tidyBehind shown' cs) := by
  cases tree with
  | punct c joint =>
    cases sound with
    | word _ spelled => cases spelled
    | sign _ _ sign no_tick =>
      obtain ⟨joint', shown', stays, reads⟩ := sign_read c joint shown cs sign no_tick follows
      exact ⟨.punct c joint', shown', .punct c joint joint', stays, reads⟩
  | group delimiter content =>
    cases sound with
    | word _ spelled => cases spelled
    | group _ _ inside uncommented =>
      cases delimiter with
      | parens =>
        obtain ⟨read, inside_shown, same, reads⟩ :=
          trees_read content inside uncommented ('(' :: shown) (')' :: cs) (by simp)
        refine ⟨.group .parens read, ')' :: inside_shown, .group .parens _ read same, nofun, ?_⟩
        rw [Tree.text, List.cons_append, List.cons_append, List.append_assoc, List.singleton_append]
        exact delimited_read .parens '(' ')' shown inside_shown _ cs read rfl rfl reads
      | brackets =>
        obtain ⟨read, inside_shown, same, reads⟩ :=
          trees_read content inside uncommented ('[' :: shown) (']' :: cs) (by simp)
        refine ⟨.group .brackets read, ']' :: inside_shown, .group .brackets _ read same, nofun, ?_⟩
        rw [Tree.text, List.cons_append, List.cons_append, List.append_assoc, List.singleton_append]
        exact delimited_read .brackets '[' ']' shown inside_shown _ cs read rfl rfl reads
      -- braces have blanks inside, each of them a gap of its own
      | braces =>
        cases content with
        | nil =>
          obtain ⟨inside_shown, reads⟩ := gap_read ('\x7b' :: shown) ('\x7d' :: cs)
          refine ⟨.group .braces [], '\x7d' :: inside_shown, .group .braces [] [] .nil, nofun, ?_⟩
          exact delimited_read .braces '\x7b' '\x7d' shown inside_shown _ cs [] rfl rfl reads
        | cons first rest =>
          obtain ⟨shown_gap, reads_gap⟩ :=
            gap_read ('\x7b' :: shown) (Tree.textOfAll (first :: rest) ++ (' ' :: '\x7d' :: cs))
          obtain ⟨read, shown_inside, same, reads⟩ :=
            trees_read (first :: rest) inside uncommented shown_gap (' ' :: '\x7d' :: cs) (by simp)
          obtain ⟨inside_shown, reads_last⟩ := gap_read shown_inside ('\x7d' :: cs)
          have all_read := (reads_gap.trans reads).trans reads_last
          rw [List.nil_append, List.append_nil] at all_read
          refine ⟨.group .braces read, '\x7d' :: inside_shown, .group .braces _ read same, nofun, ?_⟩
          rw [Tree.text, List.cons_append, List.cons_append, List.cons_append, List.cons_append, List.append_assoc]
          exact delimited_read .braces '\x7b' '\x7d' shown inside_shown _ cs read rfl rfl all_read
  | _ =>
    cases sound with
    | word _ spelled =>
      have ends : ∀ c ∈ cs.head?, c ∈ " )]".toList := by
        cases follows with
        | inl ends => exact ends
        | inr joined => cases joined.1
      obtain ⟨shown', reads⟩ := word_read _ spelled shown cs ends
      exact ⟨_, shown', by constructor, nofun, reads⟩

theorem trees_read (trees : List Tree) (sound : Tree.SoundTrees trees) (uncommented : Tree.Uncommented trees)
    (shown cs : List Char) (ends : ∀ c ∈ cs.head?, c ∈ " )]".toList) :
    ∃ read shown', RereadAll trees read ∧
      ReadsTo (tidyBehind shown (Tree.textOfAll trees ++ cs)) read (tidyBehind shown' cs) := by
  cases trees with
  | nil => exact ⟨[], shown, .nil, reads_nothing _⟩
  | cons tree rest =>
    obtain ⟨own, others⟩ := List.forall_mem_cons.mp sound
    cases rest with
    | nil =>
      obtain ⟨read, shown', same, -, reads⟩ := tree_read tree own shown cs (.inl ends)
      exact ⟨[read], shown', .cons tree read [] [] same nofun .nil, reads⟩
    | cons next rest =>
      obtain ⟨apart, uncommented_rest⟩ := List.isChain_cons_cons.mp uncommented
      -- `first` stands between the two tokens: nothing behind a joint sign, and a blank otherwise
      have behind (first : List Char) (follows : Follows tree (first ++ (Tree.textOfAll (next :: rest) ++ cs)))
          (near : tree.isJoint = true → first = [])
          (gap : ∀ shown, ∃ shown', ReadsTo (tidyBehind shown (first ++ (Tree.textOfAll (next :: rest) ++ cs))) []
            (tidyBehind shown' (Tree.textOfAll (next :: rest) ++ cs))) :
          ∃ read shown', RereadAll (tree :: next :: rest) read ∧
            ReadsTo (tidyBehind shown (tree.text ++ (first ++ (Tree.textOfAll (next :: rest) ++ cs)))) read
              (tidyBehind shown' cs) := by
        obtain ⟨read, shown_tree, same, stays, reads⟩ := tree_read tree own shown _ follows
        obtain ⟨shown_gap, reads_gap⟩ := gap shown_tree
        obtain ⟨more, shown', same_rest, reads_rest⟩ :=
          trees_read (next :: rest) others uncommented_rest shown_gap cs ends
        refine ⟨read :: more, shown', .cons tree read _ more same ?_ same_rest, (reads.trans reads_gap).trans reads_rest⟩
        intro joint c joint' following no_slash
        rw [near joint, List.nil_append] at stays
        obtain ⟨in_front, sign⟩ := sign_in_front next rest cs (others next (List.mem_cons_self ..)) c joint' following
        exact stays joint c in_front sign no_slash
      rw [text_of_several, List.append_assoc, List.append_assoc]
      cases joint : tree.isJoint with
      | true =>
        refine behind [] ?_ (fun _ => rfl) fun shown => ⟨shown, reads_nothing _⟩
        obtain ⟨more, starts⟩ := text_starts next rest
        rw [List.nil_append, starts, List.append_assoc]
        exact follows_joint tree next _ joint (others next (List.mem_cons_self ..)) apart
      | false =>
        refine behind [' '] (.inl (by simp)) ?_ fun shown => gap_read shown _
        intro joined
        rw [joint] at joined
        cases joined
end

theorem drop_no_byte_order_mark (cs : List Char) (other : ∀ c ∈ cs.head?, c ≠ byteOrderMark) : dropByteOrderMark cs = cs := by
  cases cs with
  | nil => rfl
  | cons c rest => rw [dropByteOrderMark, if_neg (other c rfl)]

theorem shown_begins (trees : List Tree) (sound : Tree.SoundTrees trees) :
    ∀ c ∈ (tidy (Tree.textOfAll trees)).head?, c ≠ byteOrderMark := by
  rw [tidy_behind]
  cases trees with
  | nil => nofun
  | cons tree rest =>
    obtain ⟨more, starts⟩ := text_starts tree rest
    obtain ⟨c, others, same, solid, no_mark, -⟩ := text_begins tree (sound tree (List.mem_cons_self ..))
    rw [starts, same, List.cons_append, tidy_behind_sign [] c _ solid]
    intro d first
    cases first
    exact no_mark

theorem shown_read (trees : List Tree) (sound : Tree.SoundTrees trees) (uncommented : Tree.Uncommented trees) :
    ∃ read, trees? (shown trees).toList = some read ∧ RereadAll trees read := by
  obtain ⟨read, shown', same, steps, less, runs⟩ := trees_read trees sound uncommented [] [] (by nofun)
  refine ⟨read, ?_, same⟩
  rw [List.append_nil, ← tidy_behind] at less runs
  rw [shown, String.toList_ofList, trees?, drop_no_byte_order_mark _ (shown_begins trees sound)]
  generalize tidy (Tree.textOfAll trees) = text at less runs
  obtain ⟨extra, long⟩ := Nat.exists_eq_add_of_le (Nat.le_of_add_right_le less)
  have total : text.length + 1 = (extra + 1) + steps := by omega
  have ended (read : List Tree) : readTrees? (extra + 1) [] [] read = some read.reverse := rfl
  rw [total, runs, tidyBehind, ended, List.append_nil, List.reverse_reverse]

end ResourceRoutes.Source
