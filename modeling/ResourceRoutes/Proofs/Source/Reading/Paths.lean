import ResourceRoutes.Proofs.Source.Reading.Runs
set_option autoImplicit false

namespace ResourceRoutes.Source

open ResourceRoutes.Source.Tree (RereadAll)
open ResourceRoutes.Source.TypeExpr

inductive EndsType (plus : Bool) : Tree → Prop where
  | as : EndsType plus (.word "as")
  | sign (c : Char) (joint : Bool) (listed : c ∈ ",>;=".toList) : EndsType plus (.punct c joint)
  | plus (joint : Bool) (taken : plus = false) : EndsType plus (.punct '+' joint)

def Ends (plus : Bool) (rest : List Tree) : Prop := ∀ tree ∈ rest.head?, EndsType plus tree

structure Closed (rest : List Tree) : Prop where
  no_angle : atOp "<" rest = false
  no_separator : atOp "::" rest = false

theorem Ends.no_op {plus : Bool} {rest : List Tree} (ends : Ends plus rest) (c : Char) (cs : List Char)
    (other : c ∉ ",>;=+".toList) : beginsOp (c :: cs) rest = false := by
  rw [Bool.eq_false_iff]
  intro begins
  obtain ⟨joint, others, rfl⟩ := begins_op_head c cs rest begins
  cases ends _ rfl with
  | sign _ _ listed =>
    have each : ∀ c ∈ ",>;=".toList, c ∈ ",>;=+".toList := Lexeme.of_each (by decide)
    exact other (each c listed)
  | plus _ _ => exact other (by decide)

theorem Ends.no_plus {rest : List Tree} (ends : Ends true rest) : atOp "+" rest = false := by
  rw [Bool.eq_false_iff]
  intro begins
  obtain ⟨joint, others, rfl⟩ := begins_op_head '+' [] rest begins
  cases ends _ rfl with
  | sign _ _ listed => exact absurd listed (by decide)
  | plus _ taken => cases taken

theorem Ends.no_bounds {plus : Bool} {rest : List Tree} (ends : Ends plus rest) : (plus && atOp "+" rest) = false := by
  cases plus with
  | true => rw [ends.no_plus, Bool.and_false]
  | false => rfl

theorem Ends.closed {plus : Bool} {rest : List Tree} (ends : Ends plus rest) : Closed rest :=
  ⟨ends.no_op '<' [] (by decide), ends.no_op ':' [':'] (by decide)⟩

theorem Ends.no_group {plus : Bool} {rest : List Tree} (ends : Ends plus rest) (delimiter : Delimiter) :
    atGroup delimiter rest = false := by
  cases rest with
  | nil => rfl
  | cons tree rest => cases ends tree rfl <;> rfl

theorem Ends.weaken {plus : Bool} {rest : List Tree} (ends : Ends plus rest) : Ends false rest := by
  intro tree first
  cases ends tree first with
  | as => exact .as
  | sign c joint listed => exact .sign c joint listed
  | plus joint taken => exact .plus joint rfl

theorem Ends.of_listed {plus : Bool} {rest : List Tree} (listed : Listed rest) : Ends plus rest := by
  intro tree first
  obtain ⟨joint, rfl | rfl⟩ := listed tree first
  · exact .sign ',' joint (by decide)
  · exact .sign '>' joint (by decide)

structure SegmentEnds (rest : List Tree) : Prop where
  no_angle : atOp "<" rest = false
  no_arguments : (atOp "::" rest && Parser.thirdIsAngle rest) = false

theorem Closed.segment_ends {rest : List Tree} (closed : Closed rest) : SegmentEnds rest :=
  ⟨closed.no_angle, by rw [closed.no_separator, Bool.false_and]⟩

def Segment.ReadAgain (segment : Segment) : Prop :=
  ∀ fuel stream rest, 16 * Tree.sizeOfAll (treesOfSegment segment) + 7 ≤ fuel →
    RereadAll (treesOfSegment segment) stream → SegmentEnds rest →
    Parser.segment fuel false (stream ++ rest) = some (segment, rest)

namespace Parser

def segmentRest (fuel : Nat) (name : List Char) : Parser Segment := do
  let trees ← get
  if (!false && atOp "<" trees && !atOp "<=" trees) || (atOp "::" trees && thirdIsAngle trees) then
    return Segment.mk name (← angled fuel)
  else return Segment.mk name .none

theorem at_ident_free (name : List Char) (free : name ∉ keywords) (trees : List Tree) :
    atIdent (.ident name :: trees) = true := by
  rw [atIdent, List.contains_eq_mem, decide_eq_false free]
  rfl

theorem ident_run (name : List Char) (free : name ∉ keywords) (trees : List Tree) :
    ident (.ident name :: trees) = some (name, trees) := run_bind (expect_kept atIdent _ (at_ident_free name free trees))

theorem free_apart {name : List Char} (free : name ∉ keywords) (word : List Char) (keyword : word ∈ keywords) :
    name ≠ word := by
  rintro rfl
  exact free keyword

theorem segment_run (fuel : Nat) (name : List Char) (own : ArgumentWord name) (trees : List Tree) :
    segment (fuel + 1) false (.ident name :: trees) = segmentRest fuel name trees := by
  cases own with
  | inl free =>
    have no_keyword : atAnyWord ["super", "self", "crate", "try"] (.ident name :: trees) = false := by
      apply any_word_absent
      have each : ∀ word ∈ ["super", "self", "crate", "try"], word.toList ∈ keywords := by decide
      exact fun word member => free_apart free _ (each word member)
    have no_self : atWord "Self" (.ident name :: trees) = false :=
      beq_eq_false_iff_ne.mpr (free_apart free _ (by decide))
    refine (run_bind (sees_run _ _ _ no_keyword)).trans ?_
    refine (run_bind (sees_run _ _ _ no_self)).trans ?_
    exact run_bind (ident_run name free trees)
  | inr same =>
    rw [same]
    rfl

theorem bare_again (name : List Char) (own : PathWord name) : (Segment.mk name .none).ReadAgain := by
  intro fuel stream rest room same ends
  obtain ⟨others, rfl, same_others⟩ := same.of_ident
  cases same_others
  cases fuel with
  | zero => omega
  | succ fuel =>
    by_cases argument_word : ArgumentWord name
    · rw [List.cons_append, segment_run fuel name argument_word, List.nil_append]
      have no_arguments : (!false && atOp "<" rest && !atOp "<=" rest || atOp "::" rest && thirdIsAngle rest) = false := by
        rw [ends.no_angle, ends.no_arguments]
        rfl
      change (if (!false && atOp "<" rest && !atOp "<=" rest || atOp "::" rest && thirdIsAngle rest) = true then
        (do return Segment.mk name (← angled fuel)) else pure (Segment.mk name .none) : Parser Segment) rest = _
      rw [no_arguments]
      rfl
    · have keyword : name ∈ ["super", "self", "crate"].map String.toList := by
        cases own with
        | inl free => exact absurd (.inl free) argument_word
        | inr listed =>
          have split : ∀ word ∈ pathWords, word = "Self".toList ∨ word ∈ ["super", "self", "crate"].map String.toList := by
            decide
          exact (split name listed).resolve_left fun self => argument_word (.inr self)
      simp only [List.map_cons, List.map_nil, List.mem_cons, List.not_mem_nil, or_false] at keyword
      obtain rfl | rfl | rfl := keyword <;> rfl

end Parser

def BeginsArgument (trees : List Tree) : Prop := ∃ tree rest, trees = tree :: rest ∧ ∀ joint, tree ≠ .punct '>' joint ∧ tree ≠ .punct '=' joint

theorem BeginsArgument.reread {trees stream : List Tree} (begins : BeginsArgument trees) (same : RereadAll trees stream) :
    BeginsArgument stream := by
  obtain ⟨tree, rest, rfl, apart⟩ := begins
  cases same with
  | cons _ read _ others first held behind =>
    refine ⟨read, others, rfl, ?_⟩
    intro joint
    constructor
    · rintro rfl
      cases first with
      | punct _ joint' _ => exact (apart joint').1 rfl
    · rintro rfl
      cases first with
      | punct _ joint' _ => exact (apart joint').2 rfl

theorem BeginsArgument.no_op {trees : List Tree} (begins : BeginsArgument trees) (rest : List Tree) :
    atOp ">" (trees ++ rest) = false ∧ atOp "=" (trees ++ rest) = false := by
  obtain ⟨tree, others, rfl, apart⟩ := begins
  constructor
  · rw [Bool.eq_false_iff]
    intro seen
    obtain ⟨joint, _, same⟩ := begins_op_head '>' [] _ seen
    exact (apart joint).1 (List.cons.inj same).1
  · rw [Bool.eq_false_iff]
    intro seen
    obtain ⟨joint, _, same⟩ := begins_op_head '=' [] _ seen
    exact (apart joint).2 (List.cons.inj same).1

def Argument.ReadAgain (argument : Argument) : Prop :=
  ∀ fuel stream rest, 16 * Tree.sizeOfAll (treesOfArgument argument) + 14 ≤ fuel →
    RereadAll (treesOfArgument argument) stream → Listed rest →
    Parser.argument fuel (stream ++ rest) = some (argument, rest)

namespace Parser

section

variable {separated : Bool} {arguments : List Argument} {trailing : Bool}
  (printed : treesOfLifetimes arguments trailing ++
    treesOfOthers (endsInLifetime arguments && !trailing) arguments trailing =
      commaTrees treesOfArgument arguments trailing)

include printed

theorem angled_printed : treesOfArguments (.angled separated arguments trailing) =
    separator separated ++ (.punct '<' false :: (commaTrees treesOfArgument arguments trailing ++ [.punct '>' false])) := by
  rw [treesOfArguments, ← printed]
  simp [Tree.op, Tree.operatorOf]

theorem angled_stream (stream : List Tree) (same : RereadAll (treesOfArguments (.angled separated arguments trailing)) stream) :
    ∃ sign joint listed joint', stream = sign ++ (.punct '<' joint :: (listed ++ [.punct '>' joint'])) ∧
      RereadAll (separator separated) sign ∧ RereadAll (commaTrees treesOfArgument arguments trailing) listed := by
  rw [angled_printed printed] at same
  obtain ⟨sign, inside, rfl, same_sign, same_inside⟩ := same.append
  obtain ⟨joint, more, rfl, same_more⟩ := same_inside.of_sign
  obtain ⟨listed, closing, rfl, same_listed, same_closing⟩ := same_more.append
  obtain ⟨joint', none, rfl, same_none⟩ := same_closing.of_sign
  cases same_none
  exact ⟨sign, joint, listed, joint', rfl, same_sign, same_listed⟩

variable (begins : ∀ a ∈ arguments, BeginsArgument (treesOfArgument a))

include begins

theorem angled_opens (stream rest : List Tree)
    (same : RereadAll (treesOfArguments (.angled separated arguments trailing)) stream) :
    (!false && atOp "<" (stream ++ rest) && !atOp "<=" (stream ++ rest) ||
      atOp "::" (stream ++ rest) && thirdIsAngle (stream ++ rest)) = true := by
  obtain ⟨sign, joint, listed, joint', rfl, same_sign, same_listed⟩ := angled_stream printed stream same
  cases separated with
  | true =>
    obtain ⟨joint'', none, rfl, same_none⟩ := same_sign.of_pair (by decide)
    cases same_none
    rfl
  | false =>
    cases same_sign
    have no_equals : atOp "=" (listed ++ [.punct '>' joint'] ++ rest) = false := by
      cases arguments with
      | nil =>
        cases same_listed
        rfl
      | cons argument arguments =>
        obtain ⟨own, others, rfl, same_own, same_others⟩ := same_listed.append
        rw [List.append_assoc, List.append_assoc]
        exact (((begins argument (List.mem_cons_self ..)).reread same_own).no_op _).2
    have no_operator : atOp "<=" (.punct '<' joint :: (listed ++ [.punct '>' joint'] ++ rest)) = false := by
      change ('<' == '<' && joint && atOp "=" (listed ++ [.punct '>' joint'] ++ rest)) = false
      rw [no_equals, Bool.and_false]
    rw [List.nil_append, List.cons_append, no_operator]
    rfl

variable (alone : arguments = [] → trailing = true) (each : ∀ a ∈ arguments, a.ReadAgain)

include alone each

theorem angled_again (fuel : Nat) (stream rest : List Tree)
    (room : 16 * Tree.sizeOfAll (treesOfArguments (.angled separated arguments trailing)) + 4 ≤ fuel)
    (same : RereadAll (treesOfArguments (.angled separated arguments trailing)) stream) :
    angled fuel (stream ++ rest) = some (.angled separated arguments trailing, rest) := by
  obtain ⟨sign, joint, listed, joint', rfl, same_sign, same_listed⟩ := angled_stream printed stream same
  rw [angled_printed printed] at room
  simp only [size_all_append, Tree.sizeOfAll, Tree.size] at room
  cases fuel with
  | zero => omega
  | succ fuel =>
    have enough : arguments.length < (listed ++ Tree.punct '>' joint' :: rest).length + 1 := by
      have longer := length_of_list treesOfArgument arguments trailing fun a member empty => by
        obtain ⟨tree, others, same, -⟩ := begins a member
        rw [empty] at same
        cases same
      rw [List.length_append, same_listed.length]
      omega
    have run_list : signed "," (atOp ">") (argument fuel) ((listed ++ Tree.punct '>' joint' :: rest).length + 1)
        (listed ++ .punct '>' joint' :: rest) = some ((arguments, trailing), .punct '>' joint' :: rest) := by
      apply run_signed arguments trailing _ listed rest joint' enough alone _ _ same_listed
      · intro a member own others same
        exact (((begins a member).reread same).no_op others).1
      · intro a member own others same listed
        have smaller := size_in_list treesOfArgument arguments trailing a member
        exact each a member fuel own others (by omega) same listed
    have run_all : (do
        op "<"
        let found ← signed "," (atOp ">") (argument fuel) (← Parser.fuel)
        op ">"
        return Arguments.angled separated found.1 found.2)
          (Tree.punct '<' joint :: (listed ++ Tree.punct '>' joint' :: rest)) =
        some (.angled separated arguments trailing, rest) := by
      change (signed "," (atOp ">") (argument fuel) ((listed ++ Tree.punct '>' joint' :: rest).length + 1) >>= fun found => do
        op ">"
        return Arguments.angled separated found.1 found.2) (listed ++ .punct '>' joint' :: rest) = _
      exact run_bind run_list
    simp only [List.append_assoc, List.cons_append, List.nil_append]
    cases separated with
    | true =>
      obtain ⟨joint'', none, rfl, same_none⟩ := same_sign.of_pair (by decide)
      cases same_none
      exact run_all
    | false =>
      cases same_sign
      exact run_all

theorem angled_segment_again (name : List Char) (own : ArgumentWord name) :
    (Segment.mk name (.angled separated arguments trailing)).ReadAgain := by
  intro fuel stream rest room same ends
  obtain ⟨others, rfl, same_others⟩ := same.of_ident
  simp only [treesOfSegment, Tree.sizeOfAll, Tree.size] at room
  cases fuel with
  | zero => omega
  | succ fuel =>
    rw [List.cons_append, segment_run fuel name own]
    have opens := angled_opens printed begins others rest same_others
    change (if (!false && atOp "<" (others ++ rest) && !atOp "<=" (others ++ rest) ||
        atOp "::" (others ++ rest) && thirdIsAngle (others ++ rest)) = true then
      (do return Segment.mk name (← angled fuel)) else pure (Segment.mk name .none) : Parser Segment) (others ++ rest) = _
    rw [opens]
    exact run_bind (angled_again printed begins alone each fuel others rest (by omega) same_others)

end

end Parser

def moreSegments : List Segment → List Tree
  | [] => []
  | segment :: rest => Tree.op "::" ++ (treesOfSegment segment ++ moreSegments rest)

theorem path_printed (first : Segment) (others : List Segment) :
    treesOfPath (first :: others) = treesOfSegment first ++ moreSegments others := by
  induction others generalizing first with
  | nil => rw [treesOfPath, moreSegments, List.append_nil]
  | cons second others ih =>
    rw [treesOfPath, ih, moreSegments, List.append_assoc]
    exact List.cons_ne_nil second others

theorem segment_stream (segment : Segment) (stream : List Tree) (same : RereadAll (treesOfSegment segment) stream) :
    ∃ name others, stream = .ident name :: others := by
  cases segment with
  | mk name arguments =>
    obtain ⟨others, rfl, -⟩ := same.of_ident
    exact ⟨name, others, rfl⟩

theorem more_segments_stream (segment : Segment) (others : List Segment) (stream : List Tree)
    (same : RereadAll (moreSegments (segment :: others)) stream) :
    ∃ joint own more, stream = .punct ':' true :: .punct ':' joint :: (own ++ more) ∧
      RereadAll (treesOfSegment segment) own ∧ RereadAll (moreSegments others) more := by
  have paired : RereadAll (.punct ':' true :: .punct ':' false :: (treesOfSegment segment ++ moreSegments others)) stream :=
    same
  obtain ⟨joint, read, rfl, same_read⟩ := paired.of_pair (by decide)
  obtain ⟨own, more, rfl, same_own, same_more⟩ := same_read.append
  exact ⟨joint, own, more, rfl, same_own, same_more⟩

theorem more_segments_end (segments : List Segment) (stream rest : List Tree)
    (same : RereadAll (moreSegments segments) stream) (closed : Closed rest) : SegmentEnds (stream ++ rest) := by
  cases segments with
  | nil =>
    cases same
    exact closed.segment_ends
  | cons segment others =>
    obtain ⟨joint, own, more, rfl, same_own, same_more⟩ := more_segments_stream segment others stream same
    obtain ⟨name, behind, rfl⟩ := segment_stream segment own same_own
    exact ⟨rfl, rfl⟩

namespace Parser

theorem path_rest_again (leaveCalls : Bool) (segments : List Segment) (each : ∀ segment ∈ segments, segment.ReadAgain)
    (fuel : Nat) (stream rest : List Tree) (room : 16 * Tree.sizeOfAll (moreSegments segments) + 8 ≤ fuel)
    (same : RereadAll (moreSegments segments) stream) (closed : Closed rest) :
    pathRest fuel false leaveCalls (stream ++ rest) = some (segments, rest) := by
  induction segments generalizing fuel stream with
  | nil =>
    cases same
    cases fuel with
    | zero => omega
    | succ fuel =>
      have ended : (atOp "::" rest && !(leaveCalls && thirdIsParens rest)) = false := by
        rw [closed.no_separator, Bool.false_and]
      exact run_bind (sees_run (fun trees => atOp "::" trees && !(leaveCalls && thirdIsParens trees)) rest false ended)
  | cons first others ih =>
    obtain ⟨own_again, others_again⟩ := List.forall_mem_cons.mp each
    obtain ⟨joint, own, more, rfl, same_own, same_more⟩ := more_segments_stream first others stream same
    simp only [moreSegments, size_all_append, size_separator] at room
    cases fuel with
    | zero => omega
    | succ fuel =>
      have goes_on : (fun trees => atOp "::" trees && !(leaveCalls && thirdIsParens trees))
          (.punct ':' true :: .punct ':' joint :: (own ++ more) ++ rest) = true := by
        obtain ⟨name, behind, rfl⟩ := segment_stream first own same_own
        cases leaveCalls <;> rfl
      refine (run_bind (sees_run _ _ _ goes_on)).trans ?_
      have run_own := own_again fuel own (more ++ rest) (by omega) same_own (more_segments_end others more rest same_more closed)
      rw [← List.append_assoc] at run_own
      change (segment fuel false >>= fun next => pathRest fuel false leaveCalls >>= fun others => pure (next :: others))
        (own ++ more ++ rest) = _
      refine (run_bind run_own).trans ?_
      exact run_bind (ih others_again fuel more (by omega) same_more)

theorem path_again (isGlobal : Bool) (segments : List Segment) (present : segments ≠ [])
    (each : ∀ segment ∈ segments, segment.ReadAgain) (fuel : Nat) (stream rest : List Tree)
    (room : 16 * Tree.sizeOfAll (separator isGlobal ++ treesOfPath segments) + 9 ≤ fuel)
    (same : RereadAll (separator isGlobal ++ treesOfPath segments) stream) (closed : Closed rest) :
    path fuel false (stream ++ rest) = some ((isGlobal, segments), rest) := by
  cases segments with
  | nil => exact absurd rfl present
  | cons first others =>
    obtain ⟨own_again, others_again⟩ := List.forall_mem_cons.mp each
    obtain ⟨sign, named, rfl, same_sign, same_named⟩ := same.append
    rw [path_printed] at same_named room
    obtain ⟨own, more, rfl, same_own, same_more⟩ := same_named.append
    simp only [size_all_append] at room
    cases fuel with
    | zero => omega
    | succ fuel =>
      have run_own := own_again fuel own (more ++ rest) (by omega) same_own (more_segments_end others more rest same_more closed)
      have run_more := path_rest_again true others others_again fuel more rest (by omega) same_more closed
      have run_both : (do
          let first ← segment fuel false
          return (isGlobal, first :: (← pathRest fuel false true))) (own ++ (more ++ rest)) =
            some ((isGlobal, first :: others), rest) := by
        refine (run_bind run_own).trans ?_
        exact run_bind run_more
      rw [List.append_assoc, List.append_assoc]
      cases isGlobal with
      | true =>
        obtain ⟨joint, none, rfl, same_none⟩ := same_sign.of_pair (by decide)
        cases same_none
        exact run_both
      | false =>
        cases same_sign
        obtain ⟨name, behind, rfl⟩ := segment_stream first own same_own
        exact run_both

end Parser

end ResourceRoutes.Source
