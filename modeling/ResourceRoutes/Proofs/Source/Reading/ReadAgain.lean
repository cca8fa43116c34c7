import ResourceRoutes.Proofs.Source.Reading.Bounds
import ResourceRoutes.Source.Function
set_option autoImplicit false

namespace ResourceRoutes.Source

open ResourceRoutes.Source.Tree (RereadAll)
open ResourceRoutes.Source.TypeExpr

theorem Listed.no_op {rest : List Tree} (listed : Listed rest) (c : Char) (cs : List Char) (other : c ∉ ",>".toList) :
    beginsOp (c :: cs) rest = false := by
  rw [Bool.eq_false_iff]
  intro begins
  obtain ⟨joint, others, rfl⟩ := begins_op_head c cs rest begins
  obtain ⟨joint', same | same⟩ := listed _ rfl
  · cases same
    exact other (by decide)
  · cases same
    exact other (by decide)

namespace Parser

theorem trait_named {list : List Bound} (named : namesTrait list = true) : list ≠ [] := by
  rintro rfl
  cases named

theorem dynamic_again (list : List Bound) (named : namesTrait list = true) (ordinary : ∀ bound ∈ list, bound.Ordinary)
    (each : ∀ bound ∈ list, bound.ReadAgain) : (TypeExpr.traitObject true list false).ReadAgain := by
  intro fuel plus stream rest room same ends single
  have printed : (TypeExpr.traitObject true list false).trees = .word "dyn" :: treesOfBounds list := by
    simp [TypeExpr.trees]
  rw [printed] at room same
  simp only [Tree.sizeOfAll, Tree.word, Tree.size] at room
  obtain ⟨inner, rfl, same_inner⟩ := same.of_ident
  have present := trait_named named
  have run_bounds := bounds_again list present ordinary each plus false fuel inner rest (by omega) same_inner ends single
  have no_star : atOp "*" (inner ++ rest) = false := by
    cases list with
    | nil => exact absurd rfl present
    | cons first others =>
      exact ((bounds_stream first others (ordinary first (List.mem_cons_self ..)) inner same_inner).starts rest).2
  have run_object : traitObject (fuel + 1) plus true (inner ++ rest) = some (.traitObject true list false, rest) := by
    refine (run_bind run_bounds).trans ?_
    change (if namesTrait list = true then pure (TypeExpr.traitObject true list false) else fail : Parser TypeExpr) rest = _
    rw [named]
    rfl
  change (opIf "*" >>= fun starred => if starred = true then _ else traitObject (fuel + 1) plus true : Parser TypeExpr)
    (inner ++ rest) = _
  exact (run_bind (op_if_absent "*" _ no_star)).trans run_object

theorem implemented_again (list : List Bound) (named : namesTrait list = true)
    (ordinary : ∀ bound ∈ list, bound.Ordinary) (each : ∀ bound ∈ list, bound.ReadAgain) :
    (TypeExpr.implTrait list false).ReadAgain := by
  intro fuel plus stream rest room same ends single
  have printed : (TypeExpr.implTrait list false).trees = .word "impl" :: treesOfBounds list := by
    simp [TypeExpr.trees]
  rw [printed] at room same
  simp only [Tree.sizeOfAll, Tree.word, Tree.size] at room
  obtain ⟨inner, rfl, same_inner⟩ := same.of_ident
  have run_bounds := bounds_again list (trait_named named) ordinary each plus true (fuel + 1) inner rest (by omega)
    same_inner ends single
  change (bounds (fuel + 1) plus true >>= fun found =>
    if namesTrait found.1 = true then pure (TypeExpr.implTrait found.1 found.2) else fail : Parser TypeExpr)
      (inner ++ rest) = _
  refine (run_bind run_bounds).trans ?_
  rw [named]
  rfl

def argumentRest (fuel : Nat) (t : TypeExpr) : Parser Argument := do
  match t with
  | .path false [.mk name arguments] =>
    if ← opIf "=" then
      let value ←
        if ← sees (fun trees => atLiteral trees || atGroup .braces trees) then constant false
        else do pure (← typeExpr fuel true).trees
      return .other (TypeExpr.treesOfSegment (.mk name arguments) ++ Tree.op "=" ++ value)
    else if ← opIf ":" then
      let (bounds, trailing) ← signed "+" endsParameter (bound fuel false) (← Parser.fuel)
      return .other (TypeExpr.treesOfSegment (.mk name arguments) ++ Tree.op ":"
        ++ TypeExpr.treesOfBounds bounds ++ trailingTrees "+" bounds trailing)
    else return .type t
  | _ => return .type t

theorem argument_rest_run (fuel : Nat) (t : TypeExpr) (rest : List Tree) (listed : Listed rest) :
    argumentRest fuel t rest = some (.type t, rest) := by
  have no_equals : atOp "=" rest = false := listed.no_op '=' [] (by decide)
  have no_colon : atOp ":" rest = false := listed.no_op ':' [] (by decide)
  unfold argumentRest
  split
  · refine (run_bind (op_if_absent "=" rest no_equals)).trans ?_
    exact run_bind (op_if_absent ":" rest no_colon)
  · rfl

theorem argument_run (fuel : Nat) (tree : Tree) (others middle : List Tree) (begins : BeginsType tree) (t : TypeExpr)
    (run : typeExpr fuel true (tree :: others) = some (t, middle)) :
    argument (fuel + 1) (tree :: others) = argumentRest fuel t middle := by
  have no_lifetime := begins.no_lifetime others
  have no_literal := begins.no_literal others
  have no_braces := begins.no_braces others
  change (if (atLifetime (tree :: others) && !atOp "+" others) = true then _
    else if (atLiteral (tree :: others) || atGroup .braces (tree :: others)) = true then _
    else typeExpr fuel true >>= fun t => argumentRest fuel t : Parser Argument) (tree :: others) = _
  rw [no_lifetime, no_literal, no_braces]
  exact run_bind run

theorem type_argument_again (t : TypeExpr) (ordinary : t.Ordinary) (again : t.ReadAgain) :
    (Argument.type t).ReadAgain := by
  intro fuel stream rest room same listed
  have size : Tree.sizeOfAll (treesOfArgument (.type t)) = Tree.sizeOfAll t.trees := rfl
  obtain ⟨tree, others, rfl, begins⟩ := ordinary.stream same
  cases fuel with
  | zero => omega
  | succ fuel =>
    have run_type := again.run_plus fuel (by omega) same (.of_listed listed)
    exact (argument_run fuel tree (others ++ rest) rest begins t run_type).trans (argument_rest_run fuel t rest listed)

theorem binding_again (named : Segment) (t : TypeExpr) (ordinaryName : named.Ordinary) (againName : named.ReadAgain)
    (ordinary : t.Ordinary) (again : t.ReadAgain) :
    (Argument.other (treesOfSegment named ++ Tree.op "=" ++ t.trees)).ReadAgain := by
  intro fuel stream rest room same listed
  have printed : treesOfArgument (.other (treesOfSegment named ++ Tree.op "=" ++ t.trees)) =
      (TypeExpr.path false [named]).trees ++ (.punct '=' false :: t.trees) := by
    rw [treesOfArgument, List.append_assoc]
    rfl
  rw [printed] at room same
  simp only [size_all_append, Tree.sizeOfAll, Tree.size] at room
  obtain ⟨name, behind, rfl, same_name, same_behind⟩ := same.append
  obtain ⟨joint, inner, rfl, same_inner⟩ := same_behind.of_sign
  have ordinary_path : (TypeExpr.path false [named]).Ordinary :=
    .path false [named] (List.cons_ne_nil _ _) (List.forall_mem_singleton.mpr ordinaryName)
  have again_path : (TypeExpr.path false [named]).ReadAgain :=
    path_read_again false [named] (List.cons_ne_nil _ _) (List.forall_mem_singleton.mpr ordinaryName)
      (List.forall_mem_singleton.mpr againName)
  obtain ⟨tree, others, rfl, begins⟩ := ordinary_path.stream same_name
  obtain ⟨first, left, rfl, begins_value⟩ := ordinary.stream same_inner
  rw [List.append_assoc]
  cases fuel with
  | zero => omega
  | succ fuel =>
    have run_name : typeExpr fuel true (tree :: others ++ (.punct '=' joint :: (first :: left ++ rest))) =
        some (.path false [named], .punct '=' joint :: (first :: left ++ rest)) := by
      apply again_path.run_plus _ (by omega) same_name
      intro sign at_sign
      cases at_sign
      exact .sign '=' joint (by decide)
    have run_value : typeExpr fuel true (first :: left ++ rest) = some (t, rest) :=
      again.run_plus _ (by omega) same_inner (.of_listed listed)
    have no_constant : (atLiteral (first :: (left ++ rest)) || atGroup .braces (first :: (left ++ rest))) = false := by
      rw [begins_value.no_literal, begins_value.no_braces]
      rfl
    refine (argument_run fuel tree _ _ begins _ run_name).trans ?_
    cases named with
    | mk word arguments =>
      have at_equals : opIf "=" (.punct '=' joint :: (first :: left ++ rest)) = some (true, first :: left ++ rest) := rfl
      refine (run_bind at_equals).trans ?_
      rw [if_pos rfl]
      refine (run_bind (sees_run _ _ false no_constant)).trans ?_
      exact run_bind run_value

theorem literal_again (text : List Char) (kept : Unglued text) : (Argument.other [.literal text]).ReadAgain := by
  intro fuel stream rest room same listed
  obtain ⟨none, rfl, same_none⟩ := same.of_kept kept
  cases same_none
  cases fuel with
  | zero => omega
  | succ fuel => rfl

theorem lifetime_again (name : List Char) : (Argument.lifetime name).ReadAgain := by
  intro fuel stream rest room same listed
  obtain ⟨none, rfl, same_none⟩ := same.of_lifetime
  cases same_none
  cases fuel with
  | zero => omega
  | succ fuel =>
    have no_plus : atOp "+" rest = false := listed.no_op '+' [] (by decide)
    change (if (true && !atOp "+" rest) = true then (do return .lifetime (← lifetime)) else _ : Parser Argument)
      (.lifetime name :: rest) = _
    rw [no_plus]
    rfl

end Parser

theorem Argument.Ordinary.begins {argument : Argument} (own : argument.Ordinary) :
    BeginsArgument (treesOfArgument argument) := by
  cases own with
  | type t own =>
    obtain ⟨tree, rest, printed, begins⟩ := own.begins
    refine ⟨tree, rest, printed, fun joint => ?_⟩
    constructor
    · rintro rfl
      cases begins with
      | sign _ _ listed => exact absurd listed (by decide)
    · rintro rfl
      cases begins with
      | sign _ _ listed => exact absurd listed (by decide)
  | literal text kept => exact ⟨.literal text, [], rfl, fun joint => ⟨nofun, nofun⟩⟩
  | binding named t ownName own =>
    obtain ⟨name, rest, printed, -⟩ := ownName.named
    refine ⟨.ident name, rest ++ Tree.op "=" ++ t.trees, ?_, fun joint => ⟨nofun, nofun⟩⟩
    rw [treesOfArgument, printed, List.cons_append, List.cons_append]

theorem Argument.Ordinary.no_lifetime {argument : Argument} (own : argument.Ordinary) : isLifetime argument = false := by
  cases own <;> rfl

namespace Parser

theorem segment_again (name : List Char) (separated : Bool) (lifetimes : List (List Char)) (others : List Argument)
    (trailing : Bool) (own : ArgumentWord name) (ordinary : ∀ argument ∈ others, argument.Ordinary)
    (each : ∀ argument ∈ others, argument.ReadAgain) (alone : lifetimes = [] → others = [] → trailing = true) :
    (Segment.mk name (.angled separated (lifetimes.map .lifetime ++ others) trailing)).ReadAgain := by
  have printed := arguments_with_commas lifetimes others trailing fun argument member => (ordinary argument member).no_lifetime
  apply angled_segment_again printed _ _ _ name own
  · rw [List.forall_mem_append, List.forall_mem_map]
    exact ⟨fun name _ => ⟨.lifetime name, [], rfl, fun joint => ⟨nofun, nofun⟩⟩, fun argument member => (ordinary argument member).begins⟩
  · intro empty
    obtain ⟨no_lifetimes, no_others⟩ := List.append_eq_nil_iff.mp empty
    exact alone (List.map_eq_nil_iff.mp no_lifetimes) no_others
  · rw [List.forall_mem_append, List.forall_mem_map]
    exact ⟨fun name _ => lifetime_again name, each⟩

end Parser

open ResourceRoutes.Source.Parser in
mutual
theorem TypeExpr.Ordinary.again {t : TypeExpr} : t.Ordinary → t.ReadAgain
  | .path isGlobal segments present each =>
    path_read_again isGlobal segments present each fun segment member => Segment.Ordinary.again (each segment member)
  | .qualified self rest own present each =>
    qualified_again self false [] rest own.again (fun _ => rfl) (List.forall_mem_nil _) present
      fun segment member => (each segment member).again
  | .ofTrait self isGlobal traitPath rest own named eachNamed present each =>
    qualified_again self isGlobal traitPath rest own.again (fun unnamed => absurd unnamed named)
      (fun segment member => (eachNamed segment member).again) present fun segment member => (each segment member).again
  | .reference lifetime mutable referent own single => reference_again lifetime mutable referent own single own.again
  | .pointer mutable target own single => pointer_again mutable target single own.again
  | .paren inner own => paren_again inner own own.again
  | .unit => unit_again
  | .tuple first others trailing own each alone =>
    tuple_again first others trailing alone (List.forall_mem_cons.mpr ⟨own, each⟩)
      (List.forall_mem_cons.mpr ⟨own.again, fun t member => (each t member).again⟩)
  | .slice element own => slice_again element own.again
  | .array element length own single => array_again element length single own.again
  | .dynamic list each named => dynamic_again list named each fun bound member => (each bound member).again
  | .implemented list each named => implemented_again list named each fun bound member => (each bound member).again
  | .never => never_again
  | .inferred => inferred_again

theorem Segment.Ordinary.again {segment : Segment} : segment.Ordinary → segment.ReadAgain
  | .bare name own => bare_again name own
  | .angled name separated lifetimes others trailing own each alone =>
    segment_again name separated lifetimes others trailing own each
      (fun argument member => (each argument member).again) alone

theorem Argument.Ordinary.again {argument : Argument} : argument.Ordinary → argument.ReadAgain
  | .type t own => type_argument_again t own own.again
  | .literal text kept => literal_again text kept
  | .binding named t ownName own => binding_again named t ownName ownName.again own own.again

theorem Bound.Ordinary.again {bound : Bound} : bound.Ordinary → bound.ReadAgain
  | .lifetime name => lifetime_bound_again name
  | .trait inParens relaxed isGlobal segments own =>
    trait_bound_again inParens relaxed isGlobal segments own (own.again inParens relaxed isGlobal)

theorem TraitPath.again {segments : List Segment} : TraitPath segments → ∀ inParens relaxed isGlobal,
    TraitAgain inParens relaxed isGlobal segments
  | .plain segments present each => fun inParens relaxed isGlobal =>
    plain_trait_again inParens relaxed isGlobal segments present each fun segment member => (each segment member).again
  | .called leading name inputs trailing each own eachInput alone => fun inParens relaxed isGlobal =>
    called_trait_again inParens relaxed isGlobal leading name _ own each
      (fun segment member => (each segment member).again)
      (called_again inputs trailing alone eachInput fun t member => (eachInput t member).again)
  | .returning leading name inputs trailing output each own eachInput alone ownOutput single => fun inParens relaxed isGlobal =>
    called_trait_again inParens relaxed isGlobal leading name _ own each
      (fun segment member => (each segment member).again)
      (returning_again inputs trailing output alone eachInput (fun t member => (eachInput t member).again) single
        ownOutput.again)
end

mutual
theorem Tree.Reread.size {tree read : Tree} (same : Tree.Reread tree read) : read.size = tree.size := by
  cases same with
  | group delimiter content inside same => rw [Tree.size, Tree.size, same.size]
  | _ => rfl

theorem Tree.RereadAll.size {trees read : List Tree} (same : RereadAll trees read) :
    Tree.sizeOfAll read = Tree.sizeOfAll trees := by
  cases same with
  | nil => rfl
  | cons tree read rest others first held behind => rw [Tree.sizeOfAll, Tree.sizeOfAll, first.size, behind.size]
end

theorem TypeExpr.Ordinary.read {t : TypeExpr} (own : t.Ordinary) {stream : List Tree} (same : RereadAll t.trees stream) :
    Parser.anyType.all stream = some t := by
  rw [Parser.all_eq_some_iff]
  have run := own.again.run_plus (16 * (Tree.sizeOfAll stream + 1)) (by rw [same.size]; omega) same
    (Parser.nothing_ends true)
  rwa [List.append_nil] at run

end ResourceRoutes.Source
