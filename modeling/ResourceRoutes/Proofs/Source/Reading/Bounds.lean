import ResourceRoutes.Proofs.Source.Reading.Types
set_option autoImplicit false

namespace ResourceRoutes.Source

open ResourceRoutes.Source.Tree (RereadAll)
open ResourceRoutes.Source.TypeExpr

def Bound.ReadAgain (bound : Bound) : Prop :=
  ∀ fuel captures stream rest, 16 * Tree.sizeOfAll (treesOfBound bound) + 18 ≤ fuel →
    RereadAll (treesOfBound bound) stream → Ends false rest →
    Parser.bound fuel captures (stream ++ rest) = some (bound, rest)

inductive BeginsPath : Tree → Prop where
  | word (name : List Char) (own : PathWord name) : BeginsPath (.ident name)
  | separator (joint : Bool) : BeginsPath (.punct ':' joint)

theorem BeginsPath.no_word {tree : Tree} (begins : BeginsPath tree) (rest : List Tree) (word : String)
    (keyword : word.toList ∈ keywords) (other : word.toList ∉ pathWords) : atWord word (tree :: rest) = false := by
  cases begins with
  | word name own => exact beq_eq_false_iff_ne.mpr (own.apart _ keyword other)
  | separator joint => rfl

theorem BeginsPath.no_op {tree : Tree} (begins : BeginsPath tree) (rest : List Tree) (c : Char) (cs : List Char)
    (other : c ≠ ':') : beginsOp (c :: cs) (tree :: rest) = false := by
  rw [Bool.eq_false_iff]
  intro seen
  obtain ⟨joint, others, same⟩ := begins_op_head c cs _ seen
  cases same
  cases begins with
  | separator joint => exact other rfl

namespace Parser

theorem no_marker {tree : Tree} (begins : BeginsPath tree) (rest : List Tree) :
    constMarker (tree :: rest) = some ([], tree :: rest) := by
  have no_const := begins.no_word rest "const" (by decide) (by decide)
  have no_tilde : atOp "~" (tree :: rest) = false := begins.no_op rest '~' [] (by decide)
  have no_group : atGroup .brackets (tree :: rest) = false := by
    cases begins <;> rfl
  refine (run_bind (word_if_absent "const" _ no_const)).trans ?_
  refine (run_bind (op_if_absent "~" _ no_tilde)).trans ?_
  exact run_bind (sees_run _ _ _ no_group)

inductive Calls (fuel : Nat) (named : List Segment) (middle : List Tree) : List Segment → List Tree → Prop where
  | none (ungrouped : atGroup .parens middle = false) (unseparated : atOp "::" middle = false) :
      Calls fuel named middle named middle
  | called (arguments : Arguments) (rest : List Tree) (callable : callable? named = true)
      (grouped : atGroup .parens middle = true) (unseparated : atOp "::" middle = false)
      (run : calledArguments fuel middle = some (arguments, rest)) :
      Calls fuel named middle (withArguments named arguments) rest

def traitTail (fuel : Nat) (inParens relaxed : Bool) : Parser Bound := do
  let named ← path fuel false
  let segments ←
    if callable? named.2
        && (← sees fun trees => atGroup .parens trees || (atOp "::" trees && thirdIsParens trees)) then do
      let _ ← opIf "::"
      pure (withArguments named.2 (← calledArguments fuel))
    else pure named.2
  return .trait inParens (if relaxed then Tree.op "?" else []) named.1 segments

theorem trait_tail_run (inParens relaxed isGlobal : Bool) (named segments : List Segment) (fuel : Nat)
    (stream middle rest : List Tree) (run_path : path fuel false stream = some ((isGlobal, named), middle))
    (calls : Calls fuel named middle segments rest) :
    traitTail fuel inParens relaxed stream =
      some (.trait inParens (if relaxed then Tree.op "?" else []) isGlobal segments, rest) := by
  refine (run_bind run_path).trans ?_
  cases calls with
  | none ungrouped unseparated =>
    have uncalled : (atGroup .parens middle || atOp "::" middle && thirdIsParens middle) = false := by
      rw [ungrouped, unseparated]
      rfl
    refine (run_bind (sees_run (fun trees => atGroup .parens trees || atOp "::" trees && thirdIsParens trees) middle
      false uncalled)).trans ?_
    change (if (callable? named && false) = true then _ else _ : Parser Bound) middle = _
    rw [Bool.and_false]
    rfl
  | called arguments _ callable grouped unseparated run =>
    have called : (atGroup .parens middle || atOp "::" middle && thirdIsParens middle) = true := by
      rw [grouped, Bool.true_or]
    refine (run_bind (sees_run (fun trees => atGroup .parens trees || atOp "::" trees && thirdIsParens trees) middle
      true called)).trans ?_
    change (if (callable? named && true) = true then _ else _ : Parser Bound) middle = _
    rw [callable]
    refine (run_bind (op_if_absent "::" middle unseparated)).trans ?_
    exact run_bind run

theorem trait_bound_run (inParens relaxed : Bool) (fuel : Nat) (tree : Tree) (others : List Tree) (begins : BeginsPath tree)
    (stream : List Tree) (same : RereadAll (if relaxed then Tree.op "?" else []) stream) :
    traitBound (fuel + 2) inParens (stream ++ tree :: others) = traitTail (fuel + 1) inParens relaxed (tree :: others) := by
  have no_binder : binderIf (fuel + 1) (tree :: others) = some ([], tree :: others) :=
    binder_absent fuel _ (begins.no_word others "for" (by decide) (by decide))
  cases relaxed with
  | true =>
    have signed : RereadAll [.punct '?' false] stream := same
    obtain ⟨joint, none, rfl, same_none⟩ := signed.of_sign
    cases same_none
    have unmarked : constMarker (.punct '?' joint :: tree :: others) = some ([], .punct '?' joint :: tree :: others) := rfl
    have marked : opIf "?" (.punct '?' joint :: tree :: others) = some (true, tree :: others) := rfl
    refine (run_bind (binder_absent fuel _ rfl)).trans ?_
    refine (run_bind unmarked).trans ?_
    refine (run_bind marked).trans ?_
    refine (run_bind no_binder).trans ?_
    simp only [List.append_nil, List.isEmpty_nil, Bool.not_true, Bool.and_false, Bool.false_eq_true, if_false, if_true,
      traitTail]
  | false =>
    cases same
    have no_mark : atOp "?" (tree :: others) = false := begins.no_op others '?' [] (by decide)
    refine (run_bind no_binder).trans ?_
    refine (run_bind (no_marker begins others)).trans ?_
    exact run_bind (op_if_absent "?" _ no_mark)

theorem inputs_again (inputs : List TypeExpr) (trailing : Bool) (alone : inputs = [] → trailing = true)
    (ordinary : ∀ t ∈ inputs, t.Ordinary) (each : ∀ t ∈ inputs, t.ReadAgain) (fuel : Nat) (content rest : List Tree)
    (room : 16 * Tree.sizeOfAll (commaTrees TypeExpr.trees inputs trailing) + 12 ≤ fuel)
    (same : RereadAll (commaTrees TypeExpr.trees inputs trailing) content) :
    inGroup .parens (commaList (typeExpr fuel true)) (.group .parens content :: rest) = some ((inputs, trailing), rest) :=
  run_in_group .parens (types_again inputs trailing alone ordinary each fuel content room same) rest

theorem called_printed (inputs : List TypeExpr) (trailing : Bool) :
    Tree.group .parens (treesOfTypes inputs ++ comma (trailing && !inputs.isEmpty)) =
      .group .parens (commaTrees TypeExpr.trees inputs trailing) := by
  rw [types_with_commas]

structure CallsAgain (arguments : Arguments) : Prop where
  run : ∀ fuel stream rest, 16 * Tree.sizeOfAll (treesOfArguments arguments) + 2 ≤ fuel →
    RereadAll (treesOfArguments arguments) stream → Ends false rest →
    calledArguments fuel (stream ++ rest) = some (arguments, rest)
  grouped : ∃ content rest, treesOfArguments arguments = .group .parens content :: rest

theorem called_again (inputs : List TypeExpr) (trailing : Bool) (alone : inputs = [] → trailing = true)
    (ordinary : ∀ t ∈ inputs, t.Ordinary) (each : ∀ t ∈ inputs, t.ReadAgain) : CallsAgain (.called inputs trailing) where
  grouped := ⟨_, [], rfl⟩
  run fuel stream rest room same ends := by
    rw [treesOfArguments, called_printed] at room same
    simp only [Tree.sizeOfAll, Tree.size] at room
    obtain ⟨content, none, rfl, same_content, same_none⟩ := same.of_group
    cases same_none
    cases fuel with
    | zero => omega
    | succ fuel =>
      have run_inputs := inputs_again inputs trailing alone ordinary each fuel content rest (by omega) same_content
      have no_arrow : atOp "->" rest = false := ends.no_op '-' ['>'] (by decide)
      refine (run_bind run_inputs).trans ?_
      exact run_bind (op_if_absent "->" rest no_arrow)

theorem returning_again (inputs : List TypeExpr) (trailing : Bool) (output : TypeExpr) (alone : inputs = [] → trailing = true)
    (ordinary : ∀ t ∈ inputs, t.Ordinary) (each : ∀ t ∈ inputs, t.ReadAgain) (single : output.Single)
    (again : output.ReadAgain) : CallsAgain (.returning inputs trailing output) where
  grouped := ⟨_, _, rfl⟩
  run fuel stream rest room same ends := by
    have printed : treesOfArguments (.returning inputs trailing output) =
        .group .parens (commaTrees TypeExpr.trees inputs trailing) :: .punct '-' true :: .punct '>' false :: output.trees := by
      rw [treesOfArguments, called_printed]
      rfl
    rw [printed] at room same
    simp only [Tree.sizeOfAll, Tree.size] at room
    obtain ⟨content, behind, rfl, same_content, same_behind⟩ := same.of_group
    obtain ⟨joint, left, rfl, same_output⟩ := same_behind.of_pair (by decide)
    cases fuel with
    | zero => omega
    | succ fuel =>
      have run_inputs := inputs_again inputs trailing alone ordinary each fuel content
        (.punct '-' true :: .punct '>' joint :: left ++ rest) (by omega) same_content
      have run_output : typeExpr fuel false (left ++ rest) = some (output, rest) :=
        again.run (by omega) same_output ends fun _ => single
      refine (run_bind run_inputs).trans ?_
      change (typeExpr fuel false >>= fun output => pure (Arguments.returning inputs trailing output)) (left ++ rest) = _
      exact run_bind run_output

theorem more_printed (leading : List Segment) (name : List Char) (arguments : Arguments) :
    moreSegments (leading ++ [.mk name arguments]) =
      moreSegments (leading ++ [.mk name .none]) ++ treesOfArguments arguments := by
  induction leading with
  | nil => simp [moreSegments, treesOfSegment, treesOfArguments]
  | cons first leading ih =>
    rw [List.cons_append, List.cons_append, moreSegments, moreSegments, ih]
    simp only [List.append_assoc]

theorem call_printed (leading : List Segment) (name : List Char) (arguments : Arguments) :
    treesOfPath (leading ++ [.mk name arguments]) = treesOfPath (leading ++ [.mk name .none]) ++ treesOfArguments arguments := by
  cases leading with
  | nil => simp [treesOfPath, treesOfSegment, treesOfArguments]
  | cons first leading =>
    rw [List.cons_append, List.cons_append, path_printed, path_printed, more_printed, List.append_assoc]

def TraitAgain (inParens relaxed isGlobal : Bool) (segments : List Segment) : Prop :=
  ∀ fuel stream rest,
    16 * Tree.sizeOfAll ((if relaxed then Tree.op "?" else []) ++ separator isGlobal ++ treesOfPath segments) + 14 ≤ fuel →
    RereadAll ((if relaxed then Tree.op "?" else []) ++ separator isGlobal ++ treesOfPath segments) stream →
    Ends false rest → traitBound fuel inParens (stream ++ rest) =
      some (.trait inParens (if relaxed then Tree.op "?" else []) isGlobal segments, rest)

theorem path_stream (isGlobal : Bool) (segments : List Segment) (present : segments ≠ [])
    (named : ∀ segment ∈ segments, PathWord segment.name) (stream : List Tree)
    (same : RereadAll (separator isGlobal ++ treesOfPath segments) stream) :
    ∃ tree others, stream = tree :: others ∧ BeginsPath tree := by
  obtain ⟨sign, path, rfl, same_sign, same_path⟩ := same.append
  cases isGlobal with
  | true =>
    obtain ⟨joint, others, rfl, -⟩ := same_sign.of_pair (by decide)
    exact ⟨_, _, rfl, .separator true⟩
  | false =>
    cases same_sign
    cases segments with
    | nil => exact absurd rfl present
    | cons first others =>
      cases first with
      | mk name arguments =>
        rw [path_printed] at same_path
        obtain ⟨behind, rfl, -⟩ := RereadAll.of_ident same_path
        exact ⟨_, _, rfl, .word name (named _ (List.mem_cons_self ..))⟩

theorem trait_again (inParens relaxed isGlobal : Bool) (named segments : List Segment) (call : List Tree)
    (present : named ≠ []) (words : ∀ segment ∈ named, PathWord segment.name) (each : ∀ segment ∈ named, segment.ReadAgain)
    (printed : treesOfPath segments = treesOfPath named ++ call)
    (calls : ∀ fuel stream rest, 16 * Tree.sizeOfAll call + 2 ≤ fuel → RereadAll call stream → Ends false rest →
      Closed (stream ++ rest) ∧ Calls fuel named (stream ++ rest) segments rest) :
    TraitAgain inParens relaxed isGlobal segments := by
  intro fuel stream rest room same ends
  rw [printed, List.append_assoc, ← List.append_assoc (separator isGlobal)] at room same
  obtain ⟨mark, behind, rfl, same_mark, same_behind⟩ := same.append
  obtain ⟨path, called, rfl, same_path, same_called⟩ := same_behind.append
  rw [size_all_append, size_all_append] at room
  have enough : fuel = fuel - 2 + 2 := by omega
  obtain ⟨closed, run_call⟩ := calls (fuel - 2 + 1) called rest (by omega) same_called ends
  have run_path := path_again isGlobal named present each (fuel - 2 + 1) path (called ++ rest) (by omega) same_path closed
  obtain ⟨tree, others, rfl, begins⟩ := path_stream isGlobal named present words path same_path
  rw [enough, List.append_assoc, List.append_assoc]
  refine (trait_bound_run inParens relaxed (fuel - 2) tree (others ++ (called ++ rest)) begins mark same_mark).trans ?_
  exact trait_tail_run inParens relaxed isGlobal named segments (fuel - 2 + 1) _ _ rest run_path run_call

theorem plain_trait_again (inParens relaxed isGlobal : Bool) (segments : List Segment) (present : segments ≠ [])
    (ordinary : ∀ segment ∈ segments, segment.Ordinary) (each : ∀ segment ∈ segments, segment.ReadAgain) :
    TraitAgain inParens relaxed isGlobal segments := by
  apply trait_again inParens relaxed isGlobal segments segments [] present _ each (List.append_nil _).symm
  · intro fuel stream rest room same ends
    cases same
    exact ⟨ends.closed, .none (ends.no_group .parens) ends.closed.no_separator⟩
  · exact fun segment member => (ordinary segment member).word

theorem called_trait_again (inParens relaxed isGlobal : Bool) (leading : List Segment) (name : List Char)
    (arguments : Arguments) (own : PathWord name) (ordinary : ∀ segment ∈ leading, segment.Ordinary)
    (each : ∀ segment ∈ leading, segment.ReadAgain) (call : CallsAgain arguments) :
    TraitAgain inParens relaxed isGlobal (leading ++ [.mk name arguments]) := by
  have callable : callable? (leading ++ [.mk name .none]) = true := by
    rw [callable?, List.getLast?_concat]
  have with_arguments : withArguments (leading ++ [.mk name .none]) arguments = leading ++ [.mk name arguments] := by
    rw [withArguments, List.getLast?_concat, List.dropLast_concat]
  apply trait_again inParens relaxed isGlobal (leading ++ [.mk name .none]) _ (treesOfArguments arguments)
    (List.append_ne_nil_of_right_ne_nil _ (List.cons_ne_nil _ _)) _ _ (call_printed leading name arguments)
  · intro fuel stream rest room same ends
    have run := call.run fuel stream rest room same ends
    obtain ⟨content, behind, grouped⟩ := call.grouped
    rw [grouped] at same
    obtain ⟨inside, others, rfl, -, -⟩ := same.of_group
    have calls : Calls fuel (leading ++ [.mk name .none]) (.group .parens inside :: others ++ rest)
        (withArguments (leading ++ [.mk name .none]) arguments) rest := .called arguments rest callable rfl rfl run
    rw [with_arguments] at calls
    exact ⟨⟨rfl, rfl⟩, calls⟩
  · rw [List.forall_mem_append]
    exact ⟨fun segment member => (ordinary segment member).word, List.forall_mem_singleton.mpr own⟩
  · rw [List.forall_mem_append]
    exact ⟨each, List.forall_mem_singleton.mpr (bare_again name own)⟩

end Parser

theorem TraitPath.words {segments : List Segment} (own : TraitPath segments) :
    segments ≠ [] ∧ ∀ segment ∈ segments, PathWord segment.name := by
  have all_words (leading : List Segment) (each : ∀ segment ∈ leading, segment.Ordinary) (name : List Char)
      (own : PathWord name) (arguments : Arguments) :
      leading ++ [.mk name arguments] ≠ [] ∧ ∀ segment ∈ leading ++ [.mk name arguments], PathWord segment.name := by
    refine ⟨List.append_ne_nil_of_right_ne_nil _ (List.cons_ne_nil _ _), ?_⟩
    rw [List.forall_mem_append]
    exact ⟨fun segment member => (each segment member).word, List.forall_mem_singleton.mpr own⟩
  cases own with
  | plain segments present each => exact ⟨present, fun segment member => (each segment member).word⟩
  | called leading name inputs trailing each own eachInput alone => exact all_words leading each name own _
  | returning leading name inputs trailing output each own eachInput alone ownOutput single =>
    exact all_words leading each name own _

inductive BeginsBound : List Tree → Prop where
  | lifetime (name : List Char) (rest : List Tree) : BeginsBound (.lifetime name :: rest)
  | parens (content rest : List Tree) : BeginsBound (.group .parens content :: rest)
  | relaxed (joint : Bool) (rest : List Tree) : BeginsBound (.punct '?' joint :: rest)
  | separator (joint : Bool) (rest : List Tree) : BeginsBound (.punct ':' true :: .punct ':' joint :: rest)
  | word (name : List Char) (own : PathWord name) (rest : List Tree) : BeginsBound (.ident name :: rest)

theorem BeginsBound.starts {stream : List Tree} (begins : BeginsBound stream) (rest : List Tree) :
    Parser.startsBound (stream ++ rest) = true ∧ atOp "*" (stream ++ rest) = false := by
  cases begins <;> exact ⟨rfl, rfl⟩

theorem trait_stream (relaxed isGlobal : Bool) (segments : List Segment) (own : TraitPath segments) (stream : List Tree)
    (same : RereadAll ((if relaxed then Tree.op "?" else []) ++ separator isGlobal ++ treesOfPath segments) stream) :
    BeginsBound stream ∧ ∀ rest, atLifetime (stream ++ rest) = false ∧ atWord "use" (stream ++ rest) = false ∧
      atGroup .parens (stream ++ rest) = false := by
  rw [List.append_assoc] at same
  obtain ⟨mark, path, rfl, same_mark, same_path⟩ := same.append
  cases relaxed with
  | true =>
    have signed : RereadAll [.punct '?' false] mark := same_mark
    obtain ⟨joint, none, rfl, -⟩ := signed.of_sign
    exact ⟨.relaxed joint _, fun rest => ⟨rfl, rfl, rfl⟩⟩
  | false =>
    cases same_mark
    cases isGlobal with
    | true =>
      have paired : RereadAll (.punct ':' true :: .punct ':' false :: treesOfPath segments) path := same_path
      obtain ⟨joint, others, rfl, -⟩ := paired.of_pair (by decide)
      exact ⟨.separator joint others, fun rest => ⟨rfl, rfl, rfl⟩⟩
    | false =>
      obtain ⟨present, words⟩ := own.words
      cases segments with
      | nil => exact absurd rfl present
      | cons first others =>
        cases first with
        | mk name arguments =>
          have own_word : PathWord name := words _ (List.mem_cons_self ..)
          have printed : RereadAll (treesOfPath (.mk name arguments :: others)) path := same_path
          rw [path_printed] at printed
          obtain ⟨behind, rfl, -⟩ := RereadAll.of_ident printed
          have no_use : (name == "use".toList) = false :=
            beq_eq_false_iff_ne.mpr (own_word.apart _ (by decide) (by decide))
          exact ⟨.word name own_word behind, fun rest => ⟨rfl, no_use, rfl⟩⟩

theorem Bound.Ordinary.stream {bound : Bound} (own : bound.Ordinary) {stream : List Tree}
    (same : RereadAll (treesOfBound bound) stream) : BeginsBound stream := by
  cases own with
  | lifetime name =>
    obtain ⟨none, rfl, -⟩ := RereadAll.of_lifetime same
    exact .lifetime name none
  | trait inParens relaxed isGlobal segments own =>
    cases inParens with
    | true =>
      obtain ⟨content, none, rfl, -, -⟩ := RereadAll.of_group same
      exact .parens content none
    | false => exact (trait_stream relaxed isGlobal segments own stream same).1

theorem BeginsBound.append {stream : List Tree} (begins : BeginsBound stream) (more : List Tree) :
    BeginsBound (stream ++ more) := by
  cases begins with
  | lifetime name rest => exact .lifetime name _
  | parens content rest => exact .parens content _
  | relaxed joint rest => exact .relaxed joint _
  | separator joint rest => exact .separator joint _
  | word name own rest => exact .word name own _

theorem several_printed (first second : Bound) (others : List Bound) :
    treesOfBounds (first :: second :: others) =
      treesOfBound first ++ (.punct '+' false :: treesOfBounds (second :: others)) := by
  rw [treesOfBounds, List.append_assoc]
  · rfl
  · nofun

theorem bounds_stream (first : Bound) (others : List Bound) (own : first.Ordinary) (stream : List Tree)
    (same : RereadAll (treesOfBounds (first :: others)) stream) : BeginsBound stream := by
  cases others with
  | nil => exact own.stream same
  | cons second others =>
    rw [several_printed] at same
    obtain ⟨front, behind, rfl, same_front, -⟩ := same.append
    exact (own.stream same_front).append behind

namespace Parser

theorem lifetime_bound_again (name : List Char) : (Bound.lifetime name).ReadAgain := by
  intro fuel captures stream rest room same ends
  obtain ⟨none, rfl, same_none⟩ := RereadAll.of_lifetime same
  cases same_none
  cases fuel with
  | zero => omega
  | succ fuel => rfl

theorem trait_bound_again (inParens relaxed isGlobal : Bool) (segments : List Segment) (own : TraitPath segments)
    (again : TraitAgain inParens relaxed isGlobal segments) :
    (Bound.trait inParens (if relaxed then Tree.op "?" else []) isGlobal segments).ReadAgain := by
  intro fuel captures stream rest room same ends
  cases fuel with
  | zero => omega
  | succ fuel =>
    cases inParens with
    | true =>
      have size : Tree.sizeOfAll (treesOfBound (.trait true (if relaxed then Tree.op "?" else []) isGlobal segments)) =
          1 + Tree.sizeOfAll ((if relaxed then Tree.op "?" else []) ++ separator isGlobal ++ treesOfPath segments) := rfl
      obtain ⟨content, none, rfl, same_content, same_none⟩ := RereadAll.of_group same
      cases same_none
      have run_content := again fuel content [] (by omega) same_content (nothing_ends false)
      rw [List.append_nil] at run_content
      exact run_in_group .parens run_content rest
    | false =>
      have size : Tree.sizeOfAll (treesOfBound (.trait false (if relaxed then Tree.op "?" else []) isGlobal segments)) =
          Tree.sizeOfAll ((if relaxed then Tree.op "?" else []) ++ separator isGlobal ++ treesOfPath segments) := rfl
      have run_trait := again fuel stream rest (by omega) same ends
      obtain ⟨-, looks⟩ := trait_stream relaxed isGlobal segments own stream same
      obtain ⟨no_lifetime, no_use, no_group⟩ := looks rest
      refine (run_bind (sees_run atLifetime _ false no_lifetime)).trans ?_
      refine (run_bind (sees_run (atWord "use") _ false no_use)).trans ?_
      exact (run_bind (sees_run (atGroup .parens) _ false no_group)).trans run_trait

theorem bounds_again (list : List Bound) (present : list ≠ []) (ordinary : ∀ bound ∈ list, bound.Ordinary)
    (each : ∀ bound ∈ list, bound.ReadAgain) (plus captures : Bool) (fuel : Nat) (stream rest : List Tree)
    (room : 16 * Tree.sizeOfAll (treesOfBounds list) + 20 ≤ fuel) (same : RereadAll (treesOfBounds list) stream)
    (ends : Ends plus rest) (single : plus = false → list.length = 1) :
    bounds fuel plus captures (stream ++ rest) = some ((list, false), rest) := by
  induction list generalizing fuel stream with
  | nil => exact absurd rfl present
  | cons first others ih =>
    obtain ⟨own_again, others_again⟩ := List.forall_mem_cons.mp each
    obtain ⟨own_ordinary, others_ordinary⟩ := List.forall_mem_cons.mp ordinary
    cases fuel with
    | zero => omega
    | succ fuel =>
      cases others with
      | nil =>
        have run_own := own_again fuel captures stream rest (by rw [treesOfBounds] at room; omega) same ends.weaken
        refine (run_bind run_own).trans ?_
        refine (run_bind (sees_run (atOp "+") rest _ rfl)).trans ?_
        rw [ends.no_bounds]
        rfl
      | cons second others =>
        -- a second bound is read only where bounds may be added
        have several : plus = true := by
          cases plus with
          | true => rfl
          | false => cases single rfl
        cases several
        rw [several_printed] at room same
        simp only [size_all_append, Tree.sizeOfAll, Tree.size] at room
        obtain ⟨own, behind, rfl, same_own, same_behind⟩ := same.append
        obtain ⟨joint, left, rfl, same_left⟩ := same_behind.of_sign
        have run_own : bound fuel captures (own ++ (.punct '+' joint :: left ++ rest)) =
            some (first, .punct '+' joint :: left ++ rest) := by
          apply own_again fuel captures own _ (by omega) same_own
          intro tree first
          cases first
          exact .plus joint rfl
        have run_others : bounds fuel true captures (left ++ rest) = some ((second :: others, false), rest) :=
          ih (List.cons_ne_nil _ _) others_ordinary others_again fuel left (by omega) same_left
            fun loose => Bool.noConfusion loose
        have starts : startsBound (left ++ rest) = true :=
          (bounds_stream second others (others_ordinary second (List.mem_cons_self ..)) left same_left).starts rest |>.1
        rw [List.append_assoc]
        refine (run_bind run_own).trans ?_
        change (sees startsBound >>= fun more => if more = true then
            bounds fuel true captures >>= fun found => pure (first :: found.1, found.2)
          else pure ([first], true) : Parser (List Bound × Bool)) (left ++ rest) = _
        refine (run_bind (sees_run startsBound _ true starts)).trans ?_
        exact run_bind run_others

end Parser

end ResourceRoutes.Source
