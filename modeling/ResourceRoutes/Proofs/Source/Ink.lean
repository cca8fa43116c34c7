import ResourceRoutes.Proofs.Source.Provenance
set_option autoImplicit false

namespace ResourceRoutes.Source

def ink (cs : List Char) : List Char := cs.filter (· != ' ')

def inkOf (trees : List Tree) : List Char := ink (Tree.textOfAll trees)

theorem ink_append (a b : List Char) : ink (a ++ b) = ink a ++ ink b := List.filter_append ..

theorem ink_tidy_after (shown cs : List Char) : ink (tidyAfter shown cs) = ink shown.reverse ++ ink cs := by
  fun_induction tidyAfter shown cs with
  | case1 => simp [ink]
  | case2 shown c rest glued ih =>
    rw [ih, glued.1]
    rfl
  | case3 shown c rest kept ih =>
    rw [ih, List.reverse_cons, ink_append, List.append_assoc, ← ink_append]
    rfl

theorem ink_tidy (cs : List Char) : ink (tidy cs) = ink cs := by
  rw [tidy, ink_tidy_after]
  rfl

theorem ink_shown (trees : List Tree) : ink (shown trees).toList = inkOf trees := by
  rw [shown, String.toList_ofList, ink_tidy]
  rfl

theorem ink_of_cons (tree : Tree) (rest : List Tree) : inkOf (tree :: rest) = ink tree.text ++ inkOf rest := by
  cases rest with
  | nil => simp [inkOf, Tree.textOfAll, ink]
  | cons next rest =>
    unfold inkOf
    rw [Tree.textOfAll, ink_append, ink_append]
    · cases tree.isJoint <;> simp [ink]
    · intro none_left
      cases none_left

@[simp] theorem ink_of_append (a b : List Tree) : inkOf (a ++ b) = inkOf a ++ inkOf b := by
  induction a with
  | nil => rfl
  | cons tree rest ih => rw [List.cons_append, ink_of_cons, ih, ink_of_cons, List.append_assoc]

def marks : List Char := "(<>+*![_':".toList

def Unmarked (cs : List Char) : Prop := ∀ c ∈ cs, c ∉ marks

instance (cs : List Char) : Decidable (Unmarked cs) := List.decidableBAll (· ∉ marks) cs

def Marked (trees : List Tree) : Prop := ∃ c ∈ inkOf trees, c ∈ marks

instance (trees : List Tree) : Decidable (Marked trees) := List.decidableBEx (· ∈ marks) (inkOf trees)

@[simp] theorem marked_append_iff (a b : List Tree) : Marked (a ++ b) ↔ Marked a ∨ Marked b := by
  simp only [Marked, ink_of_append, List.mem_append, or_and_right, exists_or]

theorem marked_cons_iff (tree : Tree) (rest : List Tree) : Marked (tree :: rest) ↔ Marked [tree] ∨ Marked rest :=
  marked_append_iff [tree] rest

theorem marked_group (delimiter : Delimiter) (content : List Tree) (closed : delimiter ≠ .braces) :
    Marked [.group delimiter content] := by
  cases delimiter with
  | parens => exact ⟨'(', by simp [inkOf, ink, Tree.textOfAll, Tree.text], by decide⟩
  | brackets => exact ⟨'[', by simp [inkOf, ink, Tree.textOfAll, Tree.text], by decide⟩
  | braces => exact absurd rfl closed

theorem marked_plus : Marked (Tree.op "+") := by decide

theorem marked_lifetime (name : List Char) (named : Tree.Named (.lifetime name)) : Marked [.lifetime name] := by
  have read := named [] stops_nil
  rw [List.append_nil] at read
  unfold lifetime? at read
  split at read
  · exact ⟨'\'', by simp [inkOf, ink, Tree.textOfAll, Tree.text], by decide⟩
  · cases read

theorem marked_bounds (bound : Bound) (others : List Bound) (mark : Marked (TypeExpr.treesOfBound bound)) :
    Marked (TypeExpr.treesOfBounds (bound :: others)) := by
  cases others with
  | nil => exact mark
  | cons next others =>
    rw [TypeExpr.treesOfBounds, marked_append_iff, marked_append_iff]
    · exact .inl (.inl mark)
    · intro none_left
      cases none_left

theorem marked_several_bounds (bound : Bound) (others : List Bound) (several : others ≠ []) :
    Marked (TypeExpr.treesOfBounds (bound :: others)) := by
  rw [TypeExpr.treesOfBounds, marked_append_iff, marked_append_iff]
  · exact .inl (.inr marked_plus)
  · exact several

theorem marked_trait_object (isDyn : Bool) (bounds : List Bound) (trailing : Bool)
    (mark : Marked (TypeExpr.treesOfBounds bounds)) : Marked (TypeExpr.traitObject isDyn bounds trailing).trees := by
  rw [TypeExpr.trees, marked_append_iff, marked_append_iff]
  exact .inl (.inr mark)

end ResourceRoutes.Source
