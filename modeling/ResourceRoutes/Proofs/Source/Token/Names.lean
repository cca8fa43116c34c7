import Mathlib.Data.List.TakeWhile
import ResourceRoutes.Proofs.Source.Token.Throughout
set_option autoImplicit false

namespace ResourceRoutes.Source

open ResourceRoutes.Source.Tree (Throughout)

def Stops (after : List Char) : Prop := ∀ c ∈ after.head?, c ∈ " <>)],:;".toList

theorem stops_nil : Stops [] := by
  intro c first
  cases first

namespace Lexeme

theorem stop_continues_nothing (c : Char) (stop : c ∈ " <>)],:;".toList) : Text.isIdentContinue c = false := by
  have every : (" <>)],:;".toList.all fun c => !Text.isIdentContinue c) = true := by decide
  exact Bool.not_eq_true' _ ▸ List.all_eq_true.mp every c stop

theorem take_while_alone (p : Char → Bool) (cs after : List Char) (stops : ∀ c ∈ after.head?, p c = false) :
    (cs.takeWhile p ++ after).takeWhile p = cs.takeWhile p := by
  rw [List.takeWhile_append_of_pos (by simpa using fun c => List.mem_takeWhile_imp)]
  cases after with
  | nil => simp
  | cons c rest => simp [stops c rfl]

theorem ident_alone (cs after : List Char) (n : Nat) (stops : Stops after) (read : ident? cs = some n) :
    ident? (cs.take n ++ after) = some n := by
  cases cs with
  | nil => cases read
  | cons c rest =>
    rw [ident?] at read
    by_cases starts : Text.isIdentStart c
    · rw [if_pos starts] at read
      cases read
      have front : rest.take (rest.takeWhile Text.isIdentContinue).length = rest.takeWhile Text.isIdentContinue :=
        (List.prefix_iff_eq_take.mp (List.takeWhile_prefix _)).symm
      rw [Nat.add_comm, List.take_succ_cons, front, List.cons_append, ident?, if_pos starts,
        take_while_alone _ _ _ fun c first => stop_continues_nothing c (stops c first), Nat.add_comm]
    · rw [if_neg starts] at read
      cases read

theorem ident_extent (cs : List Char) (n : Nat) (read : ident? cs = some n) : 0 < n ∧ n ≤ cs.length := by
  cases cs with
  | nil => cases read
  | cons c rest =>
    rw [ident?] at read
    split at read
    · cases read
      have front := (List.takeWhile_prefix (l := rest) Text.isIdentContinue).length_le
      rw [List.length_cons]
      omega
    · cases read

theorem any_ident_of_unmarked (cs : List Char) (unmarked : ∀ rest, cs ≠ 'r' :: '#' :: rest) :
    anyIdent? cs = ident? cs := by
  unfold anyIdent?
  split
  · rename_i rest
    exact absurd rfl (unmarked rest)
  · rfl

theorem any_ident_alone (cs after : List Char) (n : Nat) (stops : Stops after) (read : anyIdent? cs = some n) :
    anyIdent? (cs.take n ++ after) = some n := by
  unfold anyIdent? at read
  split at read
  · rename_i rest
    split at read
    · rename_i m read_name
      split at read
      · cases read
      · rename_i rawable
        cases read
        have extent := (ident_extent rest m read_name).2
        have same_name : (rest.take m ++ after).take m = rest.take m := by
          rw [List.take_append_of_le_length (by simp [extent]), List.take_take, Nat.min_self]
        rw [List.take_succ_cons, List.take_succ_cons, List.cons_append, List.cons_append, anyIdent?,
          ident_alone rest after m stops read_name]
        simp only [same_name, if_neg rawable]
    · cases read
  · rename_i unmarked
    rw [any_ident_of_unmarked]
    · exact ident_alone cs after n stops read
    · intro rest marked
      obtain ⟨positive, -⟩ := ident_extent cs n read
      cases cs with
      | nil => cases read
      | cons c cs =>
        obtain ⟨n, rfl⟩ := Nat.exists_eq_succ_of_ne_zero positive.ne'
        rw [List.take_succ_cons, List.cons_append, List.cons.injEq] at marked
        obtain ⟨rfl, marked⟩ := marked
        -- the mark would stand behind the name or in it
        cases front : cs.take n with
        | nil =>
          rw [front, List.nil_append] at marked
          have stop := stops '#' (by rw [marked]; rfl)
          revert stop
          decide
        | cons d name =>
          rw [front, List.cons_append, List.cons.injEq] at marked
          obtain ⟨rfl, -⟩ := marked
          cases cs with
          | nil => cases n <;> cases front
          | cons e cs =>
            cases n with
            | zero => cases front
            | succ n =>
              cases front
              exact unmarked cs rfl

theorem any_ident_extent (cs : List Char) (n : Nat) (read : anyIdent? cs = some n) : 0 < n ∧ n ≤ cs.length := by
  unfold anyIdent? at read
  split at read
  · rename_i rest
    split at read
    · rename_i m read_name
      split at read
      · cases read
      · cases read
        have extent := (ident_extent rest m read_name).2
        simp only [List.length_cons]
        omega
    · cases read
  · exact ident_extent cs n read

theorem ident_chars (cs : List Char) (n : Nat) (read : ident? cs = some n) :
    ∀ c ∈ cs.take n, Text.isIdentStart c ∨ Text.isIdentContinue c := by
  cases cs with
  | nil => cases read
  | cons first rest =>
    rw [ident?] at read
    split at read
    · rename_i starts
      cases read
      rw [Nat.add_comm, List.take_succ_cons, List.forall_mem_cons]
      refine ⟨.inl starts, ?_⟩
      intro c member
      rw [← List.prefix_iff_eq_take.mp (List.takeWhile_prefix _)] at member
      exact .inr (List.mem_takeWhile_imp member)
    · cases read

theorem any_ident_chars (cs : List Char) (n : Nat) (read : anyIdent? cs = some n) :
    ∀ c ∈ cs.take n, Text.isIdentStart c ∨ Text.isIdentContinue c ∨ c = '#' := by
  unfold anyIdent? at read
  split at read
  · rename_i rest
    split at read
    · rename_i m read_name
      split at read
      · cases read
      · cases read
        rw [List.take_succ_cons, List.take_succ_cons, List.forall_mem_cons, List.forall_mem_cons]
        refine ⟨.inl (by decide), .inr (.inr rfl), ?_⟩
        intro c member
        cases ident_chars rest m read_name c member with
        | inl starts => exact .inl starts
        | inr goes_on => exact .inr (.inl goes_on)
    · cases read
  · intro c member
    cases ident_chars cs n read c member with
    | inl starts => exact .inl starts
    | inr goes_on => exact .inr (.inl goes_on)

end Lexeme

theorem lifetime_alone (cs after : List Char) (n : Nat) (stops : Stops after) (read : lifetime? cs = some n) :
    lifetime? (cs.take n ++ after) = some n := by
  unfold lifetime? at read
  split at read
  · rename_i rest
    split at read
    · rename_i m read_name
      dsimp only at read
      split at read
      · cases read
      · cases read
        have extent := (Lexeme.any_ident_extent rest m read_name).2
        have behind : (rest.take m ++ after).drop m = after :=
          List.drop_left' (by rw [List.length_take]; omega)
        rw [List.take_succ_cons, List.cons_append, lifetime?]
        simp only [Lexeme.any_ident_alone rest after m stops read_name, behind]
        refine if_neg ?_
        intro goes_on
        cases goes_on with
        | inl tick =>
          have stop := stops _ tick
          revert stop
          decide
        | inr mark =>
          have stop := stops _ mark.1
          revert stop
          decide
    · cases read
  · cases read

theorem lifetime_extent (cs : List Char) (n : Nat) (read : lifetime? cs = some n) : n ≤ cs.length := by
  unfold lifetime? at read
  split at read
  · rename_i rest
    split at read
    · rename_i m read_name
      dsimp only at read
      split at read
      · cases read
      · cases read
        exact Nat.succ_le_succ (Lexeme.any_ident_extent rest m read_name).2
    · cases read
  · cases read

def Tree.Named : Tree → Prop
  | .ident name => ∀ after, Stops after → Lexeme.anyIdent? (name ++ after) = some name.length
  | .lifetime name => ∀ after, Stops after → lifetime? (name ++ after) = some name.length
  | _ => True

theorem ident_named (cs : List Char) (n : Nat) (read : Lexeme.anyIdent? cs = some n) :
    Tree.Named (.ident (cs.take n)) := by
  intro after stops
  rw [Lexeme.any_ident_alone cs after n stops read, List.length_take,
    Nat.min_eq_left (Lexeme.any_ident_extent cs n read).2]

theorem lifetime_named (cs : List Char) (n : Nat) (read : lifetime? cs = some n) :
    Tree.Named (.lifetime (cs.take n)) := by
  intro after stops
  rw [lifetime_alone cs after n stops read, List.length_take, Nat.min_eq_left (lifetime_extent cs n read)]

theorem names_hold : HoldsOfTokens Tree.Named where
  token cs tree n read := by
    unfold token? at read
    split at read
    · cases read
      exact .literal _ trivial
    split at read
    · split at read
      · obtain ⟨m, read_lifetime, same⟩ := Option.map_eq_some_iff.mp read
        cases same
        exact .lifetime _ (lifetime_named _ _ read_lifetime)
      · cases read
        exact .punct _ _ trivial
      · cases read
    split at read
    · cases read
    obtain ⟨m, read_name, same⟩ := Option.map_eq_some_iff.mp read
    cases same
    exact .ident _ (ident_named _ _ read_name)
  comment comment tree member := by
    have sign (c : Char) (joint : Bool) : Throughout Tree.Named (.punct c joint) := .punct c joint trivial
    have content : ∀ inner ∈ [Tree.word "doc", .punct '=' false, .literal (Text.quoted comment.text)],
        Throughout Tree.Named inner := by
      intro inner member
      simp only [List.mem_cons, List.not_mem_nil, or_false] at member
      obtain rfl | rfl | rfl := member
      · exact .ident _ (ident_named "doc".toList 3 (by decide))
      · exact sign '=' false
      · exact .literal _ trivial
    simp only [DocComment.trees, List.mem_append, List.mem_cons, List.not_mem_nil, or_false] at member
    obtain (rfl | inner) | rfl := member
    · exact sign '#' false
    · split at inner
      · cases List.mem_singleton.mp inner
        exact sign '!' false
      · cases inner
    · exact .group .brackets _ content

theorem trees_named (cs : List Char) (trees : List Tree) (lexed : trees? cs = some trees) :
    ∀ tree ∈ trees, Throughout Tree.Named tree :=
  trees_throughout names_hold cs trees lexed

end ResourceRoutes.Source
