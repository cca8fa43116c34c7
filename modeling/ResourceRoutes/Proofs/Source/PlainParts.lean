import ResourceRoutes.Proofs.Source.Printing
import ResourceRoutes.Proofs.Source.Yields
set_option autoImplicit false

namespace ResourceRoutes.Source

open ResourceRoutes.Source.Tree (SoundTrees Uncommented)
open ResourceRoutes.Source.TypeExpr

instance sound_inherited : Parser.Inherited SoundTrees where
  left_over trees rest ending sound := fun tree member => sound tree (ending.subset member)
  inside delimiter content rest sound := by
    cases sound _ (List.mem_cons_self ..) with
    | word _ spelled => cases spelled
    | group _ _ inside _ => exact inside

namespace Parser

variable {α : Type}

abbrev Gives (Q : α → Prop) (p : Parser α) : Prop := YieldsFrom SoundTrees Q p

theorem any_ident_plain : Gives (fun name => (Tree.ident name).Plain) anyIdent where
  given trees name rest sound run := by
    cases trees with
    | nil => cases run
    | cons tree others =>
      have own := sound tree (List.mem_cons_self ..)
      cases tree with
      | ident name =>
        cases run
        exact plain_of_unsigned _ own (by nofun)
      | _ => cases run

theorem ident_plain : Gives (fun name => (Tree.ident name).Plain) ident := by
  apply yields_after
  intro seen
  exact any_ident_plain

theorem lifetime_plain : Gives (fun name => (Tree.lifetime name).Plain) lifetime where
  given trees name rest sound run := by
    cases trees with
    | nil => cases run
    | cons tree others =>
      have own := sound tree (List.mem_cons_self ..)
      cases tree with
      | lifetime name =>
        cases run
        exact plain_of_unsigned _ own (by nofun)
      | _ => cases run

theorem lifetime_if_plain : Gives (fun found => PlainTrees (found.toList.map Tree.lifetime)) lifetimeIf := by
  apply yields_after
  intro present
  apply yields_ite
  · apply lifetime_plain.andThen
    intro name plain
    exact yields_pure _ _ ((plain_cons_iff _ _).mpr ⟨plain, plain_nil⟩)
  · exact yields_pure _ _ plain_nil

theorem any_group_plain : Gives Tree.Plain anyGroup where
  given trees tree rest sound run := by
    cases trees with
    | nil => cases run
    | cons first others =>
      have own := sound first (List.mem_cons_self ..)
      cases first with
      | group delimiter content =>
        cases run
        exact plain_of_unsigned _ own (by nofun)
      | _ => cases run

def Ending (trees : List Tree) : Prop := SoundTrees trees ∧ Uncommented trees

theorem some_rest_ending : Gives Ending someRest := by
  apply yields_get.andThen
  intro trees sound
  apply yields_after
  intro emptied
  apply yields_ite
  · exact yields_fail _
  · exact yields_pure _ _ (respace_sound trees sound)

theorem array_length_ending : Gives Ending arrayLength := by
  apply some_rest_ending.andThen
  intro length ending
  apply yields_ite
  · exact yields_fail _
  · exact yields_pure _ _ ending

theorem ending_append (front length : List Tree) (plain : PlainTrees front) (ending : Ending length) :
    Ending (front ++ length) :=
  ⟨List.forall_mem_append.mpr ⟨plain.sound, ending.1⟩, plain.uncommented_append ending.2⟩

theorem ending_plain (trees : List Tree) (plain : PlainTrees trees) : Ending trees := ⟨plain.sound, plain.uncommented⟩

theorem plain_path_rest_plain (fuel : Nat) : Gives PlainTrees (plainPathRest fuel) := by
  induction fuel with
  | zero => exact yields_fail _
  | succ fuel ih =>
    apply yields_after
    intro named
    apply any_ident_plain.andThen
    intro name plain
    apply yields_after
    intro more
    apply yields_ite
    · apply ih.andThen
      intro rest plain_rest
      apply yields_pure
      simp only [plain_cons_iff, plain_append_iff]
      exact ⟨⟨plain, plain_op "::" (by decide)⟩, plain_rest⟩
    · exact yields_pure _ _ ((plain_cons_iff _ _).mpr ⟨plain, plain_nil⟩)

theorem plain_path_plain : Gives PlainTrees plainPath := by
  apply yields_after
  intro isGlobal
  apply yields_after
  intro enough
  apply (plain_path_rest_plain enough).andThen
  intro rest plain
  exact yields_pure _ _ ((plain_append_iff _ _).mpr ⟨plain_separator isGlobal, plain⟩)

theorem attribute_body_ending : Gives Ending attributeBody := by
  have behind (path : List Tree) (plain : PlainTrees path) : Gives Ending (do
      if ← atEnd then return path
      if ← opIf "=" then return path ++ Tree.op "=" ++ (← someRest)
      return path ++ [← anyGroup]) := by
    apply yields_after
    intro ended
    apply yields_ite
    · exact yields_pure _ _ (ending_plain path plain)
    apply yields_after
    intro valued
    apply yields_ite
    · apply some_rest_ending.andThen
      intro value ending
      exact yields_pure _ _ (ending_append _ value ((plain_append_iff _ _).mpr ⟨plain, plain_op "=" (by decide)⟩) ending)
    · apply any_group_plain.andThen
      intro group plain_group
      apply yields_pure
      exact ending_plain _ ((plain_append_iff _ _).mpr ⟨plain, (plain_cons_iff _ _).mpr ⟨plain_group, plain_nil⟩⟩)
  apply yields_after
  intro isUnsafe
  apply yields_ite
  · exact (yields_pure PlainTrees _ ((plain_cons_iff _ _).mpr ⟨plain_word "unsafe" (by decide), plain_nil⟩)).andThen behind
  · exact plain_path_plain.andThen behind

theorem attributes_plain (look : List Tree → Bool) (sign : Parser (List Tree)) [stays : ∀ start, StaysIn start sign]
    (signed : Gives PlainTrees sign) (fuel : Nat) : Gives PlainTrees (attributes look sign fuel) := by
  induction fuel with
  | zero => exact yields_fail _
  | succ fuel ih =>
    apply yields_after
    intro present
    apply yields_ite
    · apply signed.andThen
      intro lead plain
      apply (yields_in_group attribute_body_ending).andThen
      intro body ending
      apply ih.andThen
      intro rest plain_rest
      apply yields_pure
      rw [plain_append_iff, plain_cons_iff]
      exact ⟨plain, plain_group .brackets body ending.1 ending.2, plain_rest⟩
    · exact yields_pure _ _ plain_nil

theorem outer_attributes_plain : Gives PlainTrees outerAttributes := by
  apply yields_after
  intro enough
  apply attributes_plain
  apply yields_after
  intro sign
  exact yields_pure _ _ (plain_op "#" (by decide))

theorem expect_run {look : List Tree → Bool} {trees middle : List Tree} {u : Unit}
    (run : expect look trees = some (u, middle)) : look trees = true ∧ middle = trees := by
  change (if look trees = true then pure () else fail : Parser Unit) trees = some (u, middle) at run
  split at run
  · rename_i looked
    cases run
    exact ⟨looked, rfl⟩
  · cases run

theorem literal_plain : Gives PlainTrees literal where
  given trees found rest sound run := by
    obtain ⟨⟨u, middle⟩, run_look, run_literal⟩ := Option.bind_eq_some_iff.mp run
    obtain ⟨looked, rfl⟩ := expect_run run_look
    unfold atLiteral at looked
    split at looked
    · rename_i text others
      cases run_literal
      have own := sound _ (List.mem_cons_self ..)
      exact (plain_cons_iff _ _).mpr ⟨plain_of_unsigned _ own (by nofun), plain_nil⟩
    · rename_i name others
      cases run_literal
      have own := sound _ (List.mem_cons_self ..)
      exact (plain_cons_iff _ _).mpr ⟨plain_of_unsigned _ own (by nofun), plain_nil⟩
    · rename_i joint text others
      cases run_literal
      have own := sound (.literal text) (List.mem_cons_of_mem _ (List.mem_cons_self ..))
      rw [plain_append_iff, plain_cons_iff]
      exact ⟨plain_op "-" (by decide), plain_of_unsigned _ own (by nofun), plain_nil⟩
    · cases looked

theorem constant_plain (namesAllowed : Bool) : Gives PlainTrees (constant namesAllowed) := by
  apply yields_after
  intro isLiteral
  apply yields_ite
  · exact literal_plain
  apply yields_after
  intro isName
  apply yields_ite
  · apply ident_plain.andThen
    intro name plain
    exact yields_pure _ _ ((plain_cons_iff _ _).mpr ⟨plain, plain_nil⟩)
  · apply (yields_group .braces).andThen
    intro content sound
    obtain ⟨sound_content, uncommented⟩ := respace_sound content sound
    exact yields_pure _ _ ((plain_cons_iff _ _).mpr ⟨plain_group .braces _ sound_content uncommented, plain_nil⟩)

theorem plain_fixed (s : String) (read : Lexeme.anyIdent? s.toList = some s.toList.length) : PlainTrees [.word s] :=
  (plain_cons_iff _ _).mpr ⟨plain_word s read, plain_nil⟩

theorem convention_plain : Gives PlainTrees convention := by
  apply yields_after
  intro present
  apply yields_ite
  · apply yields_seen
    · intro trees found rest sound looked run
      unfold atStringLiteral at looked
      split at looked
      · rename_i text others
        cases run
        have own := sound _ (List.mem_cons_self ..)
        rw [plain_cons_iff]
        exact ⟨plain_word "extern" (by decide), (plain_cons_iff _ _).mpr ⟨plain_of_unsigned _ own (by nofun), plain_nil⟩⟩
      · cases looked
    · exact yields_pure _ _ (plain_fixed "extern" (by decide))
  · exact yields_pure _ _ plain_nil

theorem word_trees_plain (s : String) (read : Lexeme.anyIdent? s.toList = some s.toList.length) :
    Gives PlainTrees (wordTrees s) := by
  apply yields_after
  intro present
  apply yields_ite
  · exact yields_pure _ _ (plain_fixed s read)
  · exact yields_pure _ _ plain_nil

theorem signed_plain {sign : String} {enough : List Tree → Bool} {item : Parser (List Tree)}
    [stays : ∀ start, StaysIn start item] (each : Gives PlainTrees item) (fuel : Nat) (plain_sign : PlainTrees (Tree.op sign)) :
    Gives (fun found => PlainTrees (joinTrees sign found.1 ++ trailingTrees sign found.1 found.2))
      (signed sign enough item fuel) :=
  ⟨fun trees found rest sound run => (plain_append_iff _ _).mpr
    ⟨plain_join sign plain_sign found.1 ((yields_signed each fuel).given trees found rest sound run),
      plain_trailing sign plain_sign found.1 found.2⟩⟩

theorem lifetime_bounds_plain (enough : List Tree → Bool) : Gives PlainTrees (lifetimeBounds enough) := by
  apply yields_after
  intro fuel
  apply (yields_signed lifetime_plain fuel).andThen
  intro found plain
  apply yields_pure
  rw [plain_append_iff]
  refine ⟨plain_join "+" (plain_op "+" (by decide)) _ ?_, plain_trailing "+" (plain_op "+" (by decide)) _ _⟩
  intro trees member
  obtain ⟨name, listed, rfl⟩ := List.mem_map.mp member
  exact (plain_cons_iff _ _).mpr ⟨plain name listed, plain_nil⟩

theorem captured_name_plain : Gives PlainTrees capturedName := by
  apply yields_after
  intro isLifetime
  apply yields_ite
  · apply lifetime_plain.andThen
    intro name plain
    exact yields_pure _ _ ((plain_cons_iff _ _).mpr ⟨plain, plain_nil⟩)
  · apply yields_after
    intro named
    apply any_ident_plain.andThen
    intro name plain
    exact yields_pure _ _ ((plain_cons_iff _ _).mpr ⟨plain, plain_nil⟩)

theorem capture_plain : Gives PlainTrees capture := by
  apply yields_after
  intro keyword
  apply yields_after
  intro opening
  apply yields_after
  intro fuel
  apply (signed_plain captured_name_plain fuel (plain_op "," (by decide))).andThen
  intro found plain
  apply yields_after
  intro closing
  apply yields_pure
  simp only [List.cons_append, List.append_assoc, plain_cons_iff, plain_append_iff] at plain ⊢
  exact ⟨plain_word "use" (by decide), plain_op "<" (by decide), plain.1, plain.2, plain_op ">" (by decide)⟩

theorem const_marker_plain : Gives PlainTrees constMarker := by
  apply yields_after
  intro isConst
  apply yields_ite
  · exact yields_pure _ _ (plain_fixed "const" (by decide))
  apply yields_after
  intro tilde
  apply yields_ite
  · apply yields_after
    intro keyword
    exact yields_pure _ _ ((plain_append_iff _ _).mpr ⟨plain_op "~" (by decide), plain_fixed "const" (by decide)⟩)
  apply yields_after
  intro grouped
  apply yields_ite
  · apply yields_after
    intro keyword
    exact yields_pure _ _ ((plain_cons_iff _ _).mpr ⟨(plain_fixed "const" (by decide)).group .brackets, plain_nil⟩)
  · exact yields_pure _ _ plain_nil

end Parser

end ResourceRoutes.Source
