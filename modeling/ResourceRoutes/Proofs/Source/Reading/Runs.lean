import ResourceRoutes.Proofs.Source.Reading.Ordinary
import ResourceRoutes.Proofs.Source.Token.Reread
import ResourceRoutes.Proofs.Source.Yields
set_option autoImplicit false

/- Parsers on trees that were printed and read again: what a run takes and what it leaves. -/
namespace ResourceRoutes.Source

open ResourceRoutes.Source.Tree (RereadAll)

@[simp] theorem size_all_append (a b : List Tree) : Tree.sizeOfAll (a ++ b) = Tree.sizeOfAll a + Tree.sizeOfAll b := by
  induction a with
  | nil => simp [Tree.sizeOfAll]
  | cons tree a ih =>
    rw [List.cons_append, Tree.sizeOfAll, Tree.sizeOfAll, ih, Nat.add_assoc]

@[simp] theorem size_separator : Tree.sizeOfAll (Tree.op "::") = 2 := rfl

theorem begins_op_head (c : Char) (cs : List Char) (trees : List Tree) (begins : beginsOp (c :: cs) trees = true) :
    ∃ joint rest, trees = .punct c joint :: rest := by
  unfold beginsOp at begins
  split at begins
  · rename_i same
    cases same
  · rename_i joint rest same
    cases same
    exact ⟨joint, rest, by rw [beq_iff_eq.mp begins]⟩
  · rename_i d joint rest _ same
    cases same
    simp only [Bool.and_eq_true, beq_iff_eq] at begins
    obtain ⟨⟨rfl, -⟩, -⟩ := begins
    exact ⟨joint, rest, rfl⟩
  · cases begins

def commaTrees {α : Type} (print : α → List Tree) : List α → Bool → List Tree
  | [], _ => []
  | a :: rest, trailing => print a ++ (TypeExpr.comma (!rest.isEmpty || trailing) ++ commaTrees print rest trailing)

theorem types_with_commas (types : List TypeExpr) (trailing : Bool) :
    TypeExpr.treesOfTypes types ++ TypeExpr.comma (trailing && !types.isEmpty) =
      commaTrees TypeExpr.trees types trailing := by
  induction types with
  | nil => cases trailing <;> rfl
  | cons t rest ih =>
    cases rest with
    | nil => simp [TypeExpr.treesOfTypes, commaTrees]
    | cons u rest =>
      rw [TypeExpr.treesOfTypes, commaTrees, ← ih]
      · simp [TypeExpr.comma]
      · simp

theorem others_with_commas (arguments : List Argument) (trailing : Bool)
    (none : ∀ argument ∈ arguments, TypeExpr.isLifetime argument = false) :
    TypeExpr.treesOfLifetimes arguments trailing = [] ∧
      TypeExpr.treesOfOthers false arguments trailing = commaTrees TypeExpr.treesOfArgument arguments trailing := by
  induction arguments with
  | nil => exact ⟨rfl, rfl⟩
  | cons argument rest ih =>
    obtain ⟨own, others⟩ := List.forall_mem_cons.mp none
    obtain ⟨no_lifetimes, same⟩ := ih others
    cases argument with
    | lifetime name => cases own
    | type t => exact ⟨no_lifetimes, by simp [TypeExpr.treesOfOthers, commaTrees, same, TypeExpr.comma]⟩
    | other trees => exact ⟨no_lifetimes, by simp [TypeExpr.treesOfOthers, commaTrees, same, TypeExpr.comma]⟩

theorem arguments_with_commas (lifetimes : List (List Char)) (others : List Argument) (trailing : Bool)
    (none : ∀ argument ∈ others, TypeExpr.isLifetime argument = false) :
    TypeExpr.treesOfLifetimes (lifetimes.map .lifetime ++ others) trailing ++
        TypeExpr.treesOfOthers (TypeExpr.endsInLifetime (lifetimes.map .lifetime ++ others) && !trailing)
          (lifetimes.map .lifetime ++ others) trailing =
      commaTrees TypeExpr.treesOfArgument (lifetimes.map .lifetime ++ others) trailing := by
  induction lifetimes with
  | nil =>
    obtain ⟨no_lifetimes, same⟩ := others_with_commas others trailing none
    have ends : TypeExpr.endsInLifetime others = false := by
      rw [TypeExpr.endsInLifetime, Option.any_eq_false]
      exact fun argument last => none argument (List.mem_of_getLast? last)
    rw [List.map_nil, List.nil_append, no_lifetimes, ends, List.nil_append]
    exact same
  | cons name lifetimes ih =>
    rw [List.map_cons, List.cons_append, TypeExpr.treesOfLifetimes, TypeExpr.treesOfOthers, commaTrees, ← ih]
    cases left : lifetimes.map Argument.lifetime ++ others with
    | nil => simp [TypeExpr.treesOfOthers, TypeExpr.treesOfArgument, TypeExpr.treesOfLifetimes]
    | cons argument rest =>
      simp [TypeExpr.endsInLifetime, List.getLast?_cons_cons, TypeExpr.treesOfArgument]

theorem size_in_list {α : Type} (print : α → List Tree) (items : List α) (trailing : Bool) (a : α) (member : a ∈ items) :
    Tree.sizeOfAll (print a) ≤ Tree.sizeOfAll (commaTrees print items trailing) := by
  induction items with
  | nil => cases member
  | cons b items ih =>
    rw [commaTrees, size_all_append, size_all_append]
    cases List.mem_cons.mp member with
    | inl same =>
      rw [same]
      omega
    | inr later =>
      have smaller := ih later
      omega

theorem length_of_list {α : Type} (print : α → List Tree) (items : List α) (trailing : Bool)
    (present : ∀ a ∈ items, print a ≠ []) : items.length ≤ (commaTrees print items trailing).length := by
  induction items with
  | nil => exact Nat.zero_le _
  | cons a items ih =>
    obtain ⟨own, others⟩ := List.forall_mem_cons.mp present
    have longer := ih others
    have first := List.length_pos_iff.mpr own
    simp only [commaTrees, List.length_append, List.length_cons]
    omega

def Listed (rest : List Tree) : Prop := ∀ tree ∈ rest.head?, ∃ joint, tree = .punct ',' joint ∨ tree = .punct '>' joint

theorem of_comma {read rest : List Tree} (present : Bool) (same : RereadAll (TypeExpr.comma present ++ rest) read) :
    (present = false ∧ RereadAll rest read) ∨
      (present = true ∧ ∃ joint others, read = .punct ',' joint :: others ∧ RereadAll rest others) := by
  cases present with
  | false => exact .inl ⟨rfl, same⟩
  | true => exact .inr ⟨rfl, same.of_sign⟩

namespace Parser

variable {α β : Type}

theorem run_bind {p : Parser α} {f : α → Parser β} {trees middle : List Tree} {a : α}
    (run : p trees = some (a, middle)) : (p >>= f) trees = f a middle := by
  change (p trees >>= fun found => f found.1 found.2) = f a middle
  rw [run]
  rfl

theorem any_word_absent (words : List String) (name : List Char) (rest : List Tree)
    (apart : ∀ word ∈ words, name ≠ word.toList) : atAnyWord words (.ident name :: rest) = false := by
  rw [atAnyWord, List.any_eq_false]
  intro word member same
  exact apart word member (beq_iff_eq.mp same)

theorem word_if_absent (word : String) (trees : List Tree) (absent : atWord word trees = false) :
    wordIf word trees = some (false, trees) := by
  rw [wordIf, sees, bind_assoc, get_bind_run, pure_bind, absent]
  rfl

theorem op_if_absent (sign : String) (trees : List Tree) (absent : atOp sign trees = false) :
    opIf sign trees = some (false, trees) := by
  rw [op_if_run, absent]
  rfl

theorem sees_run (look : List Tree → Bool) (trees : List Tree) (answer : Bool) (seen : look trees = answer) :
    sees look trees = some (answer, trees) := by
  rw [← seen]
  rfl

theorem expect_kept (look : List Tree → Bool) (trees : List Tree) (seen : look trees = true) :
    expect look trees = some ((), trees) := by
  change (if look trees = true then pure () else fail : Parser Unit) trees = _
  rw [if_pos seen]
  rfl

theorem run_all {α : Type} {p : Parser α} {content : List Tree} {a : α} (run : p content = some (a, [])) (rest : List Tree) :
    (liftM (m := Option) (p.all content) : Parser α) rest = some (a, rest) := by
  rw [(all_eq_some_iff p content a).mpr run]
  rfl

theorem run_in_group {α : Type} {p : Parser α} {content : List Tree} {a : α} (delimiter : Delimiter)
    (run : p content = some (a, [])) (rest : List Tree) :
    inGroup delimiter p (.group delimiter content :: rest) = some (a, rest) := by
  change (if delimiter = delimiter then liftM (m := Option) (p.all content) else fail : Parser α) rest = _
  rw [if_pos rfl]
  exact run_all run rest

theorem binder_absent (fuel : Nat) (trees : List Tree) (absent : atWord "for" trees = false) :
    binderIf (fuel + 1) trees = some ([], trees) := run_bind (word_if_absent "for" trees absent)

theorem run_listed {print : α → List Tree} {item : Parser α} (items : List α) (trailing : Bool) (fuel : Nat)
    (stream : List Tree) (enough : items.length < fuel) (alone : items = [] → trailing = true)
    (present : ∀ a ∈ items, print a ≠ [])
    (each : ∀ a ∈ items, ∀ stream rest, RereadAll (print a) stream → Listed rest → item (stream ++ rest) = some (a, rest))
    (same : RereadAll (commaTrees print items trailing) stream) :
    listed item fuel stream = some ((items, trailing), []) := by
  induction items generalizing fuel stream with
  | nil =>
    cases same
    cases alone rfl
    cases fuel with
    | zero => cases enough
    | succ fuel => rfl
  | cons a items ih =>
    cases fuel with
    | zero => cases enough
    | succ fuel =>
      obtain ⟨own, others, rfl, same_own, same_others⟩ := same.append
      obtain ⟨present_own, present_items⟩ := List.forall_mem_cons.mp present
      obtain ⟨each_own, each_items⟩ := List.forall_mem_cons.mp each
      have begins : (own ++ others).isEmpty = false := by
        have long := same_own.length
        cases own with
        | nil => exact absurd (List.eq_nil_of_length_eq_zero long.symm) present_own
        | cons tree own => rfl
      have not_ended : atEnd (own ++ others) = some (false, own ++ others) := by rw [← begins]; rfl
      refine (run_bind not_ended).trans ?_
      -- an item is read in front of the end and in front of a comma alike
      obtain ⟨last, same_end⟩ | ⟨more, joint, behind, rfl, same_behind⟩ := of_comma _ same_others
      · rw [Bool.or_eq_false_iff, Bool.not_eq_false', List.isEmpty_iff] at last
        obtain ⟨rfl, rfl⟩ := last
        cases same_end
        exact run_bind (each_own own [] same_own nofun)
      · have comma : Listed (.punct ',' joint :: behind) := by
          intro tree first
          cases first
          exact ⟨joint, .inl rfl⟩
        refine (run_bind (each_own own _ same_own comma)).trans ?_
        have run_items : listed item fuel behind = some ((items, trailing), []) := by
          apply ih fuel behind (Nat.lt_of_succ_lt_succ enough) _ present_items each_items same_behind
          rintro rfl
          exact more
        change (listed item fuel >>= fun found => pure (a :: found.1, found.2)) behind = _
        exact run_bind run_items

theorem run_signed {print : α → List Tree} {item : Parser α} (items : List α) (trailing : Bool) (fuel : Nat)
    (stream rest : List Tree) (joint : Bool) (enough : items.length < fuel) (alone : items = [] → trailing = true)
    (begins : ∀ a ∈ items, ∀ stream rest, RereadAll (print a) stream → atOp ">" (stream ++ rest) = false)
    (each : ∀ a ∈ items, ∀ stream rest, RereadAll (print a) stream → Listed rest → item (stream ++ rest) = some (a, rest))
    (same : RereadAll (commaTrees print items trailing) stream) :
    signed "," (atOp ">") item fuel (stream ++ .punct '>' joint :: rest) =
      some ((items, trailing), .punct '>' joint :: rest) := by
  induction items generalizing fuel stream with
  | nil =>
    cases same
    cases alone rfl
    cases fuel with
    | zero => cases enough
    | succ fuel => rfl
  | cons a items ih =>
    cases fuel with
    | zero => cases enough
    | succ fuel =>
      obtain ⟨own, others, rfl, same_own, same_others⟩ := same.append
      obtain ⟨begins_own, begins_items⟩ := List.forall_mem_cons.mp begins
      obtain ⟨each_own, each_items⟩ := List.forall_mem_cons.mp each
      rw [List.append_assoc]
      have not_ended : sees (atOp ">") (own ++ (others ++ .punct '>' joint :: rest)) =
          some (false, own ++ (others ++ .punct '>' joint :: rest)) := by
        rw [← begins_own own (others ++ .punct '>' joint :: rest) same_own]
        rfl
      refine (run_bind not_ended).trans ?_
      obtain ⟨last, same_end⟩ | ⟨more, joint', behind, rfl, same_behind⟩ := of_comma _ same_others
      · rw [Bool.or_eq_false_iff, Bool.not_eq_false', List.isEmpty_iff] at last
        obtain ⟨rfl, rfl⟩ := last
        cases same_end
        have close : Listed (.punct '>' joint :: rest) := by
          intro tree first
          cases first
          exact ⟨joint, .inr rfl⟩
        exact run_bind (each_own own _ same_own close)
      · have comma : Listed (.punct ',' joint' :: behind ++ .punct '>' joint :: rest) := by
          intro tree first
          cases first
          exact ⟨joint', .inl rfl⟩
        refine (run_bind (each_own own _ same_own comma)).trans ?_
        have run_items : signed "," (atOp ">") item fuel (behind ++ .punct '>' joint :: rest) =
            some ((items, trailing), .punct '>' joint :: rest) := by
          apply ih fuel behind (Nat.lt_of_succ_lt_succ enough) _ begins_items each_items same_behind
          rintro rfl
          exact more
        change (signed "," (atOp ">") item fuel >>= fun found => pure (a :: found.1, found.2))
          (behind ++ .punct '>' joint :: rest) = _
        exact run_bind run_items

end Parser

end ResourceRoutes.Source
