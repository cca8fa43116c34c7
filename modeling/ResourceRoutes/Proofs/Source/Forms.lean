import Mathlib.Order.Basic
import ResourceRoutes.Proofs.Source.Ink
set_option autoImplicit false

/- Most types are shown with a sign that no fixed name of the rules has. -/
namespace ResourceRoutes.Source

namespace TypeExpr

def ElementsRead (t : TypeExpr) : Prop :=
  ∀ elements trailing, t.stripParens = .tuple elements trailing → ∀ element ∈ elements, element.Read

structure Apart (t : TypeExpr) : Prop where
  mark : Marked t.trees
  elements : t.ElementsRead

end TypeExpr

inductive TypeExpr.Form : TypeExpr → Prop where
  | path (isGlobal : Bool) (segments : List Segment)
      (named : ∀ segment ∈ segments.head?, Tree.Named (.ident segment.name)) : Form (.path isGlobal segments)
  | reference (lifetime : Option (List Char)) (mutable : Bool) (referent : TypeExpr)
      (named : ∀ name ∈ lifetime, Tree.Named (.lifetime name)) (read : referent.Read) :
      Form (.reference lifetime mutable referent)
  | dynamic (bounds : List Bound) (trailing : Bool) : Form (.traitObject true bounds trailing)
  | implemented (bounds : List Bound) (trailing : Bool) : Form (.implTrait bounds trailing)
  | apart (t : TypeExpr) (held : t.Apart) : Form t

theorem TypeExpr.Form.elements_read {t : TypeExpr} (form : t.Form) : t.ElementsRead := by
  intro elements trailing same
  cases form with
  | apart _ held => exact held.elements elements trailing same
  | _ => cases same

namespace Parser

variable {α β : Type}

theorem any_ident_named : Yields (fun name => Tree.Named (.ident name)) anyIdent where
  given trees name rest named run := by
    cases trees with
    | nil => cases run
    | cons tree others =>
      cases named tree (List.mem_cons_self ..) with
      | ident name own =>
        cases run
        exact own
      | _ => cases run

theorem ident_named : Yields (fun name => Tree.Named (.ident name)) ident := by
  apply yields_after
  intro seen
  exact any_ident_named

theorem lifetime_named : Yields (fun name => Tree.Named (.lifetime name)) lifetime where
  given trees name rest named run := by
    cases trees with
    | nil => cases run
    | cons tree others =>
      cases named tree (List.mem_cons_self ..) with
      | lifetime name own =>
        cases run
        exact own
      | _ => cases run

theorem lifetime_if_named : Yields (fun found => ∀ name ∈ found, Tree.Named (.lifetime name)) lifetimeIf := by
  apply yields_after
  intro present
  apply yields_ite
  · apply lifetime_named.andThen
    intro name named
    apply yields_pure
    intro other same
    cases same
    exact named
  · apply yields_pure
    intro name absent
    cases absent

theorem segment_named (fuel : Nat) (inExpr : Bool) :
    Yields (fun segment => Tree.Named (.ident segment.name)) (segment fuel inExpr) := by
  cases fuel with
  | zero => exact yields_fail _
  | succ fuel =>
    have with_arguments (name : List Char) (named : Tree.Named (.ident name)) :
        Yields (fun segment : Segment => Tree.Named (.ident segment.name)) (do
          let trees ← get
          if (!inExpr && atOp "<" trees && !atOp "<=" trees) || (atOp "::" trees && thirdIsAngle trees) then
            return Segment.mk name (← angled fuel)
          else return Segment.mk name .none) := by
      apply yields_after
      intro trees
      apply yields_ite
      · apply yields_after
        intro arguments
        exact yields_pure _ _ named
      · exact yields_pure _ _ named
    apply yields_after
    intro isKeyword
    apply yields_ite
    · apply any_ident_named.andThen
      intro name named
      exact yields_pure _ _ named
    · apply yields_after
      intro isSelf
      apply yields_ite
      · exact any_ident_named.andThen with_arguments
      · exact ident_named.andThen with_arguments

theorem path_named (fuel : Nat) (inExpr : Bool) :
    Yields (fun found => ∀ segment ∈ found.2.head?, Tree.Named (.ident segment.name)) (path fuel inExpr) := by
  cases fuel with
  | zero => exact yields_fail _
  | succ fuel =>
    apply yields_after
    intro isGlobal
    apply (segment_named fuel inExpr).andThen
    intro first named
    apply yields_after
    intro others
    apply yields_pure
    intro segment is_first
    cases is_first
    exact named

theorem binder_marked (fuel : Nat) : Yields (fun binder => binder ≠ [] → Marked binder) (binderIf fuel) := by
  cases fuel with
  | zero => exact yields_fail _
  | succ fuel =>
    apply yields_after
    intro present
    apply yields_ite
    · apply yields_after
      intro opening
      apply yields_after
      intro enough
      apply yields_after
      intro parameters
      apply yields_after
      intro closing
      apply yields_pure
      intro nonempty
      rw [marked_append_iff]
      exact .inr (by decide)
    · apply yields_pure
      intro nonempty
      exact absurd rfl nonempty

theorem function_type_marked (fuel : Nat) : Yields Marked (functionType fuel) := by
  cases fuel with
  | zero => exact yields_fail _
  | succ fuel =>
    have ending (safety convention inputs output : List Tree) :
        Marked (safety ++ convention ++ .word "fn" :: .group .parens inputs :: output) := by
      rw [marked_append_iff, marked_cons_iff, marked_cons_iff (.group .parens inputs)]
      exact .inr (.inr (.inl (marked_group .parens inputs (by decide))))
    unfold functionType
    dsimp only
    repeat' first
      | exact yields_pure _ _ (ending _ _ _ _)
      | apply yields_ite
      | apply yields_after; intro passed

theorem bound_in_parens_marked (fuel : Nat) :
    Yields (fun bound => Marked (TypeExpr.treesOfBound bound)) (traitBound fuel true) := by
  cases fuel with
  | zero => exact yields_fail _
  | succ fuel =>
    have as_trait (leading : List Tree) (isGlobal : Bool) (segments : List Segment) :
        Marked (TypeExpr.treesOfBound (.trait true leading isGlobal segments)) :=
      marked_group .parens _ (by decide)
    have as_tokens (trees : List Tree) : Marked (TypeExpr.treesOfBound (.other [.group .parens trees])) :=
      marked_group .parens trees (by decide)
    unfold traitBound
    dsimp only
    repeat' first
      | exact yields_pure _ _ (as_trait _ _ _)
      | exact yields_pure _ _ (as_tokens _)
      | apply yields_ite
      | apply yields_after; intro passed

theorem more_bounds_present (fuel : Nat) (trees rest : List Tree) (bounds : List Bound)
    (plus : atOp "+" trees = true) (run : moreBounds fuel trees = some (bounds, rest)) : bounds ≠ [] := by
  cases fuel with
  | zero => cases run
  | succ fuel =>
    have run := after_op_if plus run
    obtain ⟨⟨bound, middle⟩, run_bound, run_more⟩ := Option.bind_eq_some_iff.mp run
    obtain ⟨⟨more, left⟩, run_more, last⟩ := Option.bind_eq_some_iff.mp run_more
    cases last
    exact List.cons_ne_nil bound more

theorem trait_object_apart (isDyn : Bool) (bounds : List Bound) (trailing : Bool)
    (mark : Marked (TypeExpr.treesOfBounds bounds)) : (TypeExpr.traitObject isDyn bounds trailing).Apart where
  mark := marked_trait_object isDyn bounds trailing mark
  elements elements trailing same := by cases same

theorem tokens_form (trees : List Tree) (mark : Marked trees) : (TypeExpr.other trees).Form := by
  apply TypeExpr.Form.apart
  refine ⟨mark, ?_⟩
  intro elements trailing same
  cases same

theorem lone_trait_object (fuel : Nat) (plus : Bool) :
    Yields (fun t => ∀ elements trailing, t.stripParens ≠ .tuple elements trailing) (traitObject fuel plus false) := by
  cases fuel with
  | zero => exact yields_fail _
  | succ fuel =>
    apply yields_after
    intro found
    apply yields_ite
    · apply yields_pure
      intro elements trailing same
      cases same
    · exact yields_fail _

theorem first_element_read (fuel : Nat) (forms : ∀ fuel' < fuel, ∀ plus, Yields TypeExpr.Form (typeExpr fuel' plus)) :
    Yields (fun found => (found.1.Read ∧ found.1.Form) ∧ ∀ others ∈ found.2, ∀ element ∈ others.1, TypeExpr.Read element)
      (firstElement fuel) := by
  cases fuel with
  | zero => exact yields_fail _
  | succ fuel =>
    have both : Yields (fun t => t.Read ∧ t.Form) (typeExpr fuel true) :=
      ⟨fun trees t rest named run => ⟨(type_read fuel true).given trees t rest named run,
        (forms fuel (Nat.lt_succ_self fuel) true).given trees t rest named run⟩⟩
    apply both.andThen
    intro first held
    apply yields_after
    intro comma
    apply yields_ite
    · apply (yields_comma_list (type_read fuel true)).andThen
      intro others read
      apply yields_pure
      refine ⟨held, ?_⟩
      intro found same
      cases same
      exact read
    · apply yields_pure
      refine ⟨held, ?_⟩
      intro found same
      cases same

theorem added_bounds_apart (fuel : Nat) (leading : Bound) (trees rest : List Tree) (t : TypeExpr)
    (plus : atOp "+" trees = true)
    (run : (do return .traitObject false (leading :: (← moreBounds fuel)) false : Parser TypeExpr) trees = some (t, rest)) :
    t.Apart := by
  obtain ⟨⟨more, left⟩, run_more, last⟩ := Option.bind_eq_some_iff.mp run
  cases last
  have several := more_bounds_present fuel trees rest more plus run_more
  exact trait_object_apart false _ false (marked_several_bounds leading more several)

theorem parenthesized_apart (fuel : Nat) (plus : Bool)
    (forms : ∀ fuel' < fuel, ∀ plus, Yields TypeExpr.Form (typeExpr fuel' plus)) :
    Yields TypeExpr.Apart (parenthesized fuel plus) := by
  cases fuel with
  | zero => exact yields_fail _
  | succ fuel =>
    have grouped (content : List Tree) : Marked [.group .parens content] := marked_group .parens content (by decide)
    apply (yields_group .parens).andThen
    intro content named
    apply yields_ite
    · apply yields_pure
      refine ⟨grouped _, ?_⟩
      intro elements trailing same element member
      cases same
      cases member
    apply yields_ite
    · apply (yields_all content named (lone_trait_object fuel true)).andThen
      intro inner not_tuple
      apply yields_pure
      refine ⟨grouped _, ?_⟩
      intro elements trailing same
      exact absurd same (not_tuple elements trailing)
    apply yields_ite
    · apply (yields_all content named (bound_in_parens_marked fuel)).andThen
      intro first mark
      apply yields_after
      intro others
      exact yields_pure _ _ (trait_object_apart false _ false (marked_bounds first others mark))
    · apply (yields_all content named (first_element_read fuel fun fuel' less => forms fuel' (by omega))).andThen
      intro found held
      obtain ⟨first, others⟩ := found
      obtain ⟨⟨read, form⟩, read_others⟩ := held
      have alone : (TypeExpr.paren first).Apart := ⟨grouped _, form.elements_read⟩
      cases others with
      | some others =>
        apply yields_pure
        refine ⟨grouped _, ?_⟩
        intro elements trailing same
        cases same
        exact List.forall_mem_cons.mpr ⟨read, read_others others rfl⟩
      | none =>
        apply yields_seen
        · intro trees t rest _ plused run
          cases plus with
          | false =>
            cases run
            exact alone
          | true =>
            rw [Bool.and_self, if_pos rfl] at run
            split at run
            · exact added_bounds_apart fuel _ trees rest t plused run
            · exact added_bounds_apart fuel _ trees rest t plused run
            · exact added_bounds_apart fuel _ trees rest t plused run
            · cases run
              exact alone
        · cases plus <;> exact yields_pure _ _ alone

theorem bounds_present (fuel : Nat) (plus captures : Bool) :
    Yields (fun found => found.1 ≠ []) (bounds fuel plus captures) := by
  cases fuel with
  | zero => exact yields_fail _
  | succ fuel =>
    unfold bounds
    repeat' first
      | exact yields_pure _ _ (List.cons_ne_nil _ _)
      | apply yields_ite
      | apply yields_after; intro passed

theorem added_path_form (fuel : Nat) (isGlobal : Bool) (segments : List Segment) : Yields TypeExpr.Form (do
    op "+"
    if ← sees startsBound then
      let found ← bounds fuel true false
      return .traitObject false (.trait false [] isGlobal segments :: found.1) found.2
    else return .traitObject false [.trait false [] isGlobal segments] true) := by
  apply yields_after
  intro sign
  apply yields_after
  intro goes_on
  apply yields_ite
  · apply (bounds_present fuel true false).andThen
    intro found present
    apply yields_pure
    exact .apart _ (trait_object_apart false _ found.2 (marked_several_bounds _ found.1 present))
  · apply yields_pure
    refine .apart _ ⟨?_, fun _ _ same => by cases same⟩
    simp only [TypeExpr.trees, if_true, marked_append_iff]
    exact .inr marked_plus

theorem path_type_form (fuel : Nat) (plus : Bool) (binder : List Tree) (mark : binder ≠ [] → Marked binder) :
    Yields TypeExpr.Form (pathType fuel plus binder) := by
  cases fuel with
  | zero => exact yields_fail _
  | succ fuel =>
    apply (path_named fuel false).andThen
    intro named_path named
    obtain ⟨isGlobal, segments⟩ := named_path
    apply yields_after
    intro exclaimed
    apply yields_ite
    · apply yields_after
      intro sign
      apply yields_after
      intro arguments
      apply yields_pure
      apply tokens_form
      simp only [marked_append_iff]
      exact .inl (.inr (by decide))
    cases binder with
    | cons tree binder =>
      have first_marked : Marked (TypeExpr.treesOfBound (.trait false (tree :: binder) isGlobal segments)) := by
        simp only [TypeExpr.treesOfBound, Bool.false_eq_true, if_false, marked_append_iff]
        exact .inl (.inl (mark (List.cons_ne_nil tree binder)))
      have with_binder (others : List Bound) (trailing : Bool) : TypeExpr.Form
          (.traitObject false (.trait false (tree :: binder) isGlobal segments :: others) trailing) :=
        .apart _ (trait_object_apart false _ trailing (marked_bounds _ others first_marked))
      repeat' first
        | exact yields_pure _ _ (with_binder _ _)
        | exact yields_pure _ _ (.path isGlobal segments named)
        | apply yields_ite
        | apply yields_after; intro passed
    | nil =>
      apply yields_seen
      · intro trees t rest named_trees plused run
        cases plus with
        | false =>
          cases run
          exact .path isGlobal segments named
        | true => exact (added_path_form fuel isGlobal segments).given trees t rest named_trees (after_sees plused run)
      · cases plus <;> exact yields_pure _ _ (.path isGlobal segments named)

theorem lifetime_bound_marked (fuel : Nat) (captures : Bool) (trees rest : List Tree) (found : Bound)
    (named : NamedTrees trees) (leads : atLifetime trees = true)
    (run : bound fuel captures trees = some (found, rest)) : Marked (TypeExpr.treesOfBound found) := by
  cases fuel with
  | zero => cases run
  | succ fuel =>
    cases trees with
    | nil => cases leads
    | cons tree others =>
      cases named tree (List.mem_cons_self ..) with
      | lifetime name own =>
        cases run
        exact marked_lifetime name own
      | _ => cases leads

theorem lifetime_bounds_marked (fuel : Nat) (plus captures : Bool) (trees rest : List Tree)
    (found : List Bound × Bool) (named : NamedTrees trees) (leads : atLifetime trees = true)
    (run : bounds fuel plus captures trees = some (found, rest)) : Marked (TypeExpr.treesOfBounds found.1) := by
  cases fuel with
  | zero => cases run
  | succ fuel =>
    obtain ⟨⟨first, middle⟩, run_first, run_others⟩ := Option.bind_eq_some_iff.mp run
    have first_marked := lifetime_bound_marked fuel captures trees middle first named leads run_first
    have others_after : Yields (fun found : List Bound × Bool => Marked (TypeExpr.treesOfBounds found.1)) (do
        if plus && (← sees (atOp "+")) then
          op "+"
          if ← sees startsBound then
            let found ← bounds fuel plus captures
            return (first :: found.1, found.2)
          else return ([first], true)
        else return ([first], false)) := by
      repeat' first
        | exact yields_pure _ _ (marked_bounds first _ first_marked)
        | apply yields_ite
        | apply yields_after; intro passed
    exact others_after.given middle found rest (left_over_kept _ trees first middle named run_first) run_others

theorem trait_object_form (fuel : Nat) (plus : Bool) : Yields TypeExpr.Form (traitObject fuel plus true) := by
  cases fuel with
  | zero => exact yields_fail _
  | succ fuel =>
    apply yields_after
    intro found
    apply yields_ite
    · exact yields_pure _ _ (.dynamic found.1 found.2)
    · exact yields_fail _

theorem lifetime_object_form (fuel : Nat) (trees rest : List Tree) (t : TypeExpr) (named : NamedTrees trees)
    (leads : atLifetime trees = true) (run : traitObject fuel true false trees = some (t, rest)) : t.Form := by
  cases fuel with
  | zero => cases run
  | succ fuel =>
    obtain ⟨⟨found, middle⟩, run_bounds, run_rest⟩ := Option.bind_eq_some_iff.mp run
    have mark := lifetime_bounds_marked fuel true false trees middle found named leads run_bounds
    dsimp only at run_rest
    split at run_rest
    · cases run_rest
      exact .apart _ (trait_object_apart false found.1 found.2 mark)
    · cases run_rest

theorem dyn_form (fuel : Nat) (plus : Bool) : Yields TypeExpr.Form (do
    word "dyn"
    if ← opIf "*" then
      let (bounds, trailing) ← bounds fuel plus false
      if namesTrait bounds then
        return .other (.word "dyn" :: Tree.op "*" ++ TypeExpr.treesOfBounds bounds
          ++ if trailing then Tree.op "+" else [])
      else fail
    else traitObject fuel plus true) := by
  apply yields_after
  intro keyword
  apply yields_after
  intro starred
  apply yields_ite
  · apply yields_after
    intro found
    apply yields_ite
    · apply yields_pure
      apply tokens_form
      rw [marked_append_iff, marked_append_iff]
      exact .inl (.inl (by decide))
    · exact yields_fail _
  · exact trait_object_form fuel plus

theorem reference_form (fuel : Nat) : Yields TypeExpr.Form (do
    op "&"
    let lifetime ← lifetimeIf
    let mutable ← wordIf "mut"
    return .reference lifetime mutable (← typeExpr fuel false)) := by
  apply yields_after
  intro sign
  apply lifetime_if_named.andThen
  intro lifetime named
  apply yields_after
  intro mutable
  apply (type_read fuel false).andThen
  intro referent read
  exact yields_pure _ _ (.reference lifetime mutable referent named read)

theorem impl_form (fuel : Nat) (plus : Bool) : Yields TypeExpr.Form (do
    word "impl"
    let (bounds, trailing) ← bounds fuel plus true
    if namesTrait bounds then return .implTrait bounds trailing else fail) := by
  apply yields_after
  intro keyword
  apply yields_after
  intro found
  apply yields_ite
  · exact yields_pure _ _ (.implemented found.1 found.2)
  · exact yields_fail _

theorem pointer_apart (fuel : Nat) : Yields TypeExpr.Apart (do
    op "*"
    let mutable ← if ← wordIf "mut" then pure true else do word "const"; pure false
    return .pointer mutable (← typeExpr fuel false)) := by
  have pointed (mutable : Bool) (target : TypeExpr) : (TypeExpr.pointer mutable target).Apart := by
    refine ⟨?_, fun _ _ same => by cases same⟩
    rw [TypeExpr.trees, marked_append_iff, marked_append_iff]
    exact .inl (.inl (by decide))
  dsimp only
  repeat' first
    | exact yields_pure _ _ (pointed _ _)
    | apply yields_ite
    | apply yields_after; intro passed

theorem array_apart (fuel : Nat) : Yields TypeExpr.Apart (arrayOrSlice fuel) := by
  cases fuel with
  | zero => exact yields_fail _
  | succ fuel =>
    have grouped (content : List Tree) : Marked [.group .brackets content] := marked_group .brackets content (by decide)
    apply yields_after
    intro element
    apply yields_after
    intro more
    apply yields_ite
    · apply yields_after
      intro length
      exact yields_pure _ _ ⟨grouped _, fun _ _ same => by cases same⟩
    · exact yields_pure _ _ ⟨grouped _, fun _ _ same => by cases same⟩

theorem qualified_apart (fuel : Nat) : Yields TypeExpr.Apart (qualifiedPath fuel false) := by
  cases fuel with
  | zero => exact yields_fail _
  | succ fuel =>
    have qualified (self : TypeExpr) (isGlobal : Bool) (traitPath rest : List Segment) :
        (TypeExpr.qualified self isGlobal traitPath rest).Apart := by
      refine ⟨?_, fun _ _ same => by cases same⟩
      simp only [TypeExpr.trees, marked_append_iff]
      exact .inl (.inr (by decide))
    unfold qualifiedPath
    dsimp only
    repeat' first
      | exact yields_pure _ _ (qualified _ _ _ _)
      | apply yields_ite
      | apply yields_after; intro passed

theorem forms_of_apart {p : Parser TypeExpr} (apart : Yields TypeExpr.Apart p) : Yields TypeExpr.Form p where
  given trees t rest named run := .apart t (apart.given trees t rest named run)

theorem fixed_form (trees : List Tree) (p : Parser Unit) [∀ start, StaysIn start p] (mark : Marked trees) :
    Yields TypeExpr.Form (do p; return .other trees) := by
  apply yields_after
  intro passed
  exact yields_pure _ _ (tokens_form trees mark)

theorem type_form (fuel : Nat) (plus : Bool) : Yields TypeExpr.Form (typeExpr fuel plus) := by
  induction fuel using Nat.strong_induction_on generalizing plus with
  | _ fuel forms =>
  cases fuel with
  | zero => exact yields_fail _
  | succ fuel =>
    apply (binder_marked fuel).andThen
    intro binder mark
    dsimp only
    apply yields_checked
    apply yields_looking
    · exact yields_after fun _ => forms_of_apart (parenthesized_apart fuel plus fun fuel' less => forms fuel' (by omega))
    apply yields_looking
    · apply yields_after
      intro here
      apply (function_type_marked fuel).andThen
      intro trees mark
      apply yields_pure
      apply tokens_form
      rw [marked_append_iff]
      exact .inr mark
    apply yields_looking
    · exact yields_after fun _ => forms_of_apart (qualified_apart fuel)
    apply yields_looking
    · exact yields_after fun _ => path_type_form fuel plus binder mark
    apply yields_looking
    · exact yields_after fun _ => dyn_form fuel plus
    apply yields_looking
    · exact yields_after fun _ => forms_of_apart (yields_in_group (array_apart fuel))
    apply yields_looking
    · exact yields_after fun _ => forms_of_apart (pointer_apart fuel)
    apply yields_looking
    · exact yields_after fun _ => reference_form fuel
    apply yields_looking
    · exact yields_after fun _ => fixed_form _ _ (by decide)
    apply yields_looking
    · exact yields_after fun _ => impl_form fuel plus
    apply yields_looking
    · exact yields_after fun _ => fixed_form _ _ (by decide)
    constructor
    intro trees t rest named run
    change (if atLifetime trees = true then traitObject fuel true false else fail) trees = some (t, rest) at run
    split at run
    · rename_i leads
      exact lifetime_object_form fuel trees rest t named leads run
    · cases run

end Parser

theorem TypeExpr.Read.form {t : TypeExpr} (read : t.Read) : t.Form := by
  obtain ⟨fuel, plus, trees, rest, named, run⟩ := read
  exact (Parser.type_form fuel plus).given trees t rest named run

end ResourceRoutes.Source
