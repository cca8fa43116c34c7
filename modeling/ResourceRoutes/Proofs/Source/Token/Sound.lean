import Mathlib.Data.List.Chain
import Mathlib.Data.List.Pairwise
import ResourceRoutes.Proofs.Source.Token.Alone
import ResourceRoutes.Source.Token.Spacing
set_option autoImplicit false

/- Trees that can be written down: words are read from their own text, and no two signs begin a comment. -/
namespace ResourceRoutes.Source

namespace Tree

def OpensComment : Tree → Tree → Prop
  | .punct c joint, .punct d _ => c = '/' ∧ joint = true ∧ (d = '/' ∨ d = '*')
  | _, _ => False

def Uncommented (trees : List Tree) : Prop := trees.IsChain fun tree next => ¬ OpensComment tree next

inductive Sound : Tree → Prop where
  | word (tree : Tree) (spelled : tree.Spelled) : Sound tree
  | sign (c : Char) (joint : Bool) (sign : isPunctuation c = true) (no_tick : c ≠ '\'') : Sound (.punct c joint)
  | group (delimiter : Delimiter) (content : List Tree) (inside : ∀ tree ∈ content, Sound tree)
      (uncommented : Uncommented content) : Sound (.group delimiter content)

def SoundTrees (trees : List Tree) : Prop := ∀ tree ∈ trees, tree.Sound

theorem no_comment_in_front (tree next : Tree) (unsigned : ∀ d joint, next ≠ .punct d joint) :
    ¬ OpensComment tree next := by
  intro opens
  unfold OpensComment at opens
  split at opens
  · exact unsigned _ _ rfl
  · exact opens

theorem Spelled.unsigned {tree : Tree} (spelled : tree.Spelled) (d : Char) (joint : Bool) : tree ≠ .punct d joint := by
  cases spelled <;> nofun

theorem uncommented_of_slashless (trees : List Tree) (slashless : ∀ tree ∈ trees, ∀ joint, tree ≠ .punct '/' joint) :
    Uncommented trees := by
  apply List.Pairwise.isChain
  apply List.pairwise_of_forall_mem_list
  intro tree member next _ opens
  unfold OpensComment at opens
  split at opens
  · obtain ⟨rfl, -⟩ := opens
    exact slashless _ member _ rfl
  · exact opens

end Tree

-- What is read of a group so far, the last tree first, with `cs` ahead. Behind a joint slash a sign is ahead that does
-- not make it a comment.
structure ReadSoFar (cs : List Char) (read : List Tree) : Prop where
  sound : Tree.SoundTrees read
  uncommented : Tree.Uncommented read.reverse
  ahead : ∀ before, read = .punct '/' true :: before →
    ∃ c rest, cs = c :: rest ∧ isPunctuation c = true ∧ c ≠ '/' ∧ c ≠ '*'

theorem nothing_read (cs : List Char) : ReadSoFar cs [] where
  sound tree member := by cases member
  uncommented := List.isChain_nil
  ahead before same := by cases same

theorem punctuation_no_space (c : Char) (sign : isPunctuation c = true) : isSpace c = false := by
  have each : ∀ c ∈ "~!@#$%^&*-=+|;:,<.>/?'".toList, isSpace c = false := Lexeme.of_each (by decide)
  exact each c (List.contains_iff_mem.mp sign)

theorem skip_space_solid (fuel : Nat) (c : Char) (rest : List Char) (no_space : isSpace c = false) (no_slash : c ≠ '/') :
    skipSpace fuel (c :: rest) = c :: rest := by
  cases fuel with
  | zero => rfl
  | succ fuel =>
    have no_line : startsLineComment (c :: rest) = false := by simp [startsLineComment, no_slash.symm]
    have no_block : startsBlockComment (c :: rest) = false := by
      simp [startsBlockComment, List.isPrefixOf, no_slash.symm]
    rw [skipSpace, no_line, no_block, no_space]
    rfl

theorem uncommented_read (cs : List Char) (read : List Tree) (tree : Tree) (so_far : ReadSoFar cs read)
    (apart : ∀ before, read = .punct '/' true :: before → ¬ Tree.OpensComment (.punct '/' true) tree) :
    Tree.Uncommented (tree :: read).reverse := by
  have earlier := so_far.uncommented
  rw [Tree.Uncommented, List.isChain_reverse] at earlier ⊢
  refine earlier.cons ?_
  intro last is_last opens
  cases read with
  | nil => cases is_last
  | cons first before =>
    cases is_last
    have joined := opens
    unfold Tree.OpensComment at joined
    split at joined
    · obtain ⟨rfl, rfl, -⟩ := joined
      exact apart before rfl opens
    · exact joined

theorem ReadSoFar.word {cs : List Char} {read : List Tree} (so_far : ReadSoFar cs read) (tree : Tree) (after : List Char)
    (sound : tree.Sound) (unsigned : ∀ d joint, tree ≠ .punct d joint) : ReadSoFar after (tree :: read) where
  sound := List.forall_mem_cons.mpr ⟨sound, so_far.sound⟩
  uncommented := uncommented_read cs read tree so_far fun _ _ => Tree.no_comment_in_front _ tree unsigned
  ahead before same := by
    cases same
    exact absurd rfl (unsigned '/' true)

theorem ReadSoFar.group {cs : List Char} {read inner : List Tree} (so_far : ReadSoFar cs read) (inside : List Char)
    (read_inside : ReadSoFar inside inner) (delimiter : Delimiter) (after : List Char) :
    ReadSoFar after (.group delimiter inner.reverse :: read) := by
  apply so_far.word _ after
  · refine .group delimiter inner.reverse ?_ read_inside.uncommented
    intro tree member
    exact read_inside.sound tree (List.mem_reverse.mp member)
  · nofun

theorem ReadSoFar.sign {cs : List Char} {read : List Tree} (so_far : ReadSoFar cs read) (c : Char) (rest : List Char)
    (ahead : skipSpace (cs.length + 1) cs = c :: rest) (sign : startsPunctuation (c :: rest) = true) (no_tick : c ≠ '\'') :
    ReadSoFar rest (.punct c (startsPunctuation rest) :: read) where
  sound := by
    rw [startsPunctuation, Bool.and_eq_true] at sign
    exact List.forall_mem_cons.mpr ⟨.sign c _ sign.2 no_tick, so_far.sound⟩
  uncommented := by
    apply uncommented_read cs read _ so_far
    intro before same opens
    obtain ⟨d, others, rfl, punctuation, no_slash, no_star⟩ := so_far.ahead before same
    rw [skip_space_solid _ d others (punctuation_no_space d punctuation) no_slash] at ahead
    cases ahead
    exact opens.2.2.elim no_slash no_star
  ahead before same := by
    cases rest with
    | nil => cases same
    | cons d others =>
      rw [List.cons.injEq, Tree.punct.injEq] at same
      obtain ⟨⟨rfl, joint⟩, -⟩ := same
      rw [startsPunctuation, Bool.and_eq_true] at joint
      refine ⟨d, others, rfl, joint.2, ?_, ?_⟩
      · rintro rfl
        cases sign
      · rintro rfl
        cases sign

theorem fixed_word_sound (s : String) (read : Lexeme.anyIdent? s.toList = some s.toList.length) : (Tree.word s).Sound := by
  have spelled := ident_spelled s.toList s.toList.length read
  rw [List.take_length] at spelled
  exact .word _ spelled

theorem fixed_sign_sound (c : Char) (joint : Bool) (sign : isPunctuation c = true ∧ c ≠ '\'') :
    (Tree.punct c joint).Sound := .sign c joint sign.1 sign.2

theorem comment_content_sound (comment : DocComment) :
    (Tree.group .brackets [.word "doc", .punct '=' false, .literal (Text.quoted comment.text)]).Sound := by
  have sound : Tree.SoundTrees [.word "doc", .punct '=' false, .literal (Text.quoted comment.text)] := by
    intro tree member
    simp only [List.mem_cons, List.not_mem_nil, or_false] at member
    obtain rfl | rfl | rfl := member
    · exact fixed_word_sound "doc" (by decide)
    · exact fixed_sign_sound '=' false (by decide)
    · exact .word _ (.literal _ (Lexeme.quoted_literal comment.text))
  refine .group .brackets _ sound (Tree.uncommented_of_slashless _ ?_)
  intro tree member joint
  simp only [List.mem_cons, List.not_mem_nil, or_false] at member
  obtain rfl | rfl | rfl := member <;> nofun

theorem ReadSoFar.mark {cs : List Char} {read : List Tree} (so_far : ReadSoFar cs read) (c : Char) (after : List Char)
    (sign : isPunctuation c = true ∧ c ≠ '\'') (apart : c ≠ '/' ∧ c ≠ '*') :
    ReadSoFar after (.punct c false :: read) where
  sound := List.forall_mem_cons.mpr ⟨fixed_sign_sound c false sign, so_far.sound⟩
  uncommented := uncommented_read cs read _ so_far fun _ _ opens => opens.2.2.elim apart.1 apart.2
  ahead before same := by cases same

theorem ReadSoFar.comment {cs : List Char} {read : List Tree} (so_far : ReadSoFar cs read) (comment : DocComment)
    (after : List Char) : ReadSoFar after (comment.trees.reverse ++ read) := by
  have hash := so_far.mark '#' cs (by decide) (by decide)
  have content := comment_content_sound comment
  have unsigned : ∀ d joint, Tree.group .brackets [.word "doc", .punct '=' false, .literal (Text.quoted comment.text)] ≠
      .punct d joint := by nofun
  unfold DocComment.trees
  cases comment.inner with
  | false => exact hash.word _ after content unsigned
  | true => exact (hash.mark '!' cs (by decide) (by decide)).word _ after content unsigned

theorem read_trees_sound (fuel : Nat) (cs : List Char) (groups : List OpenGroup) (read trees : List Tree)
    (before : ∀ opened ∈ groups, ∃ ahead, ReadSoFar ahead opened.2) (so_far : ReadSoFar cs read)
    (lexed : readTrees? fuel cs groups read = some trees) : Tree.SoundTrees trees ∧ Tree.Uncommented trees := by
  fun_induction readTrees? fuel cs groups read with
  | case2 fuel cs groups read cs' comment found ih => exact ih before (so_far.comment comment _) lexed
  | case3 =>
    cases lexed
    exact ⟨fun tree member => so_far.sound tree (List.mem_reverse.mp member), so_far.uncommented⟩
  | case5 fuel cs groups read cs' _ c rest _ delimiter _ ih =>
    refine ih ?_ (nothing_read rest) lexed
    intro opened member
    cases List.mem_cons.mp member with
    | inl last => exact ⟨cs, last ▸ so_far⟩
    | inr earlier => exact before opened earlier
  | case6 fuel cs read cs' _ c rest _ _ opened outside outer _ ih =>
    obtain ⟨ahead, so_far_outside⟩ := before _ (List.mem_cons_self ..)
    apply ih _ (so_far_outside.group cs so_far opened rest) lexed
    intro group member
    exact before group (List.mem_cons_of_mem _ member)
  | case9 fuel cs groups read cs' _ c rest ahead _ _ tree n found ih =>
    apply ih before _ lexed
    cases token_cases cs' tree n found with
    | inl spelled => exact so_far.word tree _ (.word tree spelled) spelled.unsigned
    | inr signed =>
      obtain ⟨d, others, same, sign, no_tick, rfl, rfl⟩ := signed
      rw [same] at sign ⊢
      exact so_far.sign d others same sign no_tick
  | _ => cases lexed

theorem trees_sound (cs : List Char) (trees : List Tree) (lexed : trees? cs = some trees) : Tree.SoundTrees trees :=
  (read_trees_sound _ _ [] [] trees (by nofun) (nothing_read _) lexed).1

theorem punct_run_mem (n : Nat) (trees : List Tree) (front : List Char) (begins : front <+: punctRun n trees) (c : Char)
    (joint : Bool) (member : .punct c joint ∈ trees.take front.length) : c ∈ front := by
  induction n generalizing trees front with
  | zero =>
    rw [punctRun, List.prefix_nil] at begins
    rw [begins] at member
    cases member
  | succ n ih =>
    cases front with
    | nil => cases member
    | cons d front =>
      unfold punctRun at begins
      split at begins
      · cases ‹n + 1 = 0›
      · rename_i e run rest same
        cases same
        obtain ⟨rfl, begins_rest⟩ := List.cons_prefix_cons.mp begins
        rw [List.length_cons, List.take_succ_cons] at member
        cases List.mem_cons.mp member with
        | inl own =>
          cases own
          exact List.mem_cons_self ..
        | inr later =>
          cases run with
          | true => exact List.mem_cons_of_mem d (ih rest front begins_rest later)
          | false =>
            rw [if_neg (by decide), List.prefix_nil] at begins_rest
            rw [begins_rest] at later
            cases later
      · cases List.prefix_nil.mp begins

theorem operator_goes_on (c : Char) (joint : Bool) (rest : List Tree) (d : Char) (joint' : Bool)
    (member : .punct d joint' ∈ rest.take ((operatorAt (.punct c joint :: rest)).length - 1)) : d ≠ '/' ∧ d ≠ '*' := by
  unfold operatorAt at member
  dsimp only at member
  split at member
  · rename_i operator found
    have held := List.find?_some found
    have begins := List.isPrefixOf_iff_prefix.mp held
    have each : longOperators.all (fun operator => operator.tail.all fun c => c != '/' && c != '*') = true := by decide
    have own := List.all_eq_true.mp (List.all_eq_true.mp each operator (List.mem_of_find?_eq_some found))
    cases operator with
    | nil => cases member
    | cons e others =>
      rw [punctRun, List.cons_prefix_cons] at begins
      have inside : d ∈ others := by
        cases joint with
        | true => exact punct_run_mem 2 rest others begins.2 d joint' member
        | false =>
          rw [if_neg (by decide), List.prefix_nil] at begins
          rw [begins.2] at member
          cases member
      simpa using own d inside
  · rw [punctRun] at member
    cases member

theorem respace_tree_unsigned (passed : Passed) (tree : Tree) (unsigned : ∀ d joint, tree ≠ .punct d joint) (next : Tree) :
    ¬ Tree.OpensComment (respaceTree passed tree) next := by
  cases tree with
  | punct c joint => exact absurd rfl (unsigned c joint)
  | group delimiter content => cases passed <;> exact id
  | _ => exact id

theorem respace_starts (left : Nat) (passed : Passed) (trees : List Tree) (d : Char) (joint : Bool)
    (first : .punct d joint ∈ (respaceFrom left passed trees).head?) : ∃ joint' rest, trees = .punct d joint' :: rest := by
  cases trees with
  | nil => cases first
  | cons tree rest =>
    cases tree with
    | punct c joint' =>
      cases first
      exact ⟨joint', rest, rfl⟩
    | group delimiter content => cases passed <;> cases first
    | _ => cases first

theorem respace_uncommented (left : Nat) (passed : Passed) (trees : List Tree)
    (goes_on : ∀ d joint, .punct d joint ∈ trees.take left → d ≠ '/' ∧ d ≠ '*') :
    Tree.Uncommented (respaceFrom left passed trees) := by
  induction trees generalizing left passed with
  | nil => exact List.isChain_nil
  | cons tree rest ih =>
    have unsigned (plain : ∀ d joint, tree ≠ .punct d joint) :
        Tree.Uncommented (respaceTree passed tree :: respaceFrom 0 (passed.next tree) rest) := by
      refine (ih 0 (passed.next tree) (by simp)).cons ?_
      intro next _
      exact respace_tree_unsigned passed tree plain next
    cases tree with
    | punct c joint =>
      rw [respaceFrom]
      -- after this sign `more` signs of its operator are left, and only they are joint
      generalize same : (if left = 0 then (operatorAt (.punct c joint :: rest)).length else left) - 1 = more
      have goes_on_rest : ∀ d joint, .punct d joint ∈ rest.take more → d ≠ '/' ∧ d ≠ '*' := by
        intro d joint' member
        rw [← same] at member
        by_cases begins : left = 0
        · rw [if_pos begins] at member
          exact operator_goes_on c joint rest d joint' member
        · rw [if_neg begins] at member
          obtain ⟨k, rfl⟩ := Nat.exists_eq_succ_of_ne_zero begins
          exact goes_on d joint' (List.mem_cons_of_mem _ member)
      refine (ih more (passed.next (.punct c joint)) goes_on_rest).cons ?_
      intro next first opens
      unfold Tree.OpensComment at opens
      split at opens
      · rename_i e run f follows signed
        obtain ⟨others, behind, rfl⟩ := respace_starts more _ rest f follows first
        cases signed
        obtain ⟨-, run, comment⟩ := opens
        obtain ⟨k, rfl⟩ := Nat.exists_eq_succ_of_ne_zero (bne_iff_ne.mp run)
        obtain ⟨no_slash, no_star⟩ := goes_on_rest f others (List.mem_cons_self ..)
        exact comment.elim no_slash no_star
      · exact opens
    | _ => exact unsigned nofun

mutual
theorem respace_tree_sound (passed : Passed) (tree : Tree) (sound : tree.Sound) : (respaceTree passed tree).Sound := by
  cases tree with
  | group delimiter content =>
    cases sound with
    | word _ spelled => cases spelled
    | group _ _ inside uncommented =>
      rw [respaceTree]
      split
      · exact .group delimiter content inside uncommented
      · exact .group delimiter _ (respace_from_sound 0 .other content inside)
          (respace_uncommented 0 .other content (by simp))
  | _ => exact sound

theorem respace_from_sound (left : Nat) (passed : Passed) (trees : List Tree) (sound : Tree.SoundTrees trees) :
    Tree.SoundTrees (respaceFrom left passed trees) := by
  cases trees with
  | nil => exact sound
  | cons tree rest =>
    obtain ⟨own, others⟩ := List.forall_mem_cons.mp sound
    cases tree with
    | punct c joint =>
      rw [respaceFrom]
      cases own with
      | word _ spelled => cases spelled
      | sign _ _ sign no_tick =>
        exact List.forall_mem_cons.mpr ⟨.sign c _ sign no_tick, respace_from_sound _ _ rest others⟩
    | _ => exact List.forall_mem_cons.mpr ⟨respace_tree_sound passed _ own, respace_from_sound 0 _ rest others⟩
end

theorem respace_sound (trees : List Tree) (sound : Tree.SoundTrees trees) :
    Tree.SoundTrees (respace trees) ∧ Tree.Uncommented (respace trees) :=
  ⟨respace_from_sound 0 .other trees sound, respace_uncommented 0 .other trees (by simp)⟩

end ResourceRoutes.Source
