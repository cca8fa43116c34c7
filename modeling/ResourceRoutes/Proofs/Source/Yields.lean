import ResourceRoutes.Proofs.Source.LeftOver
set_option autoImplicit false

namespace ResourceRoutes.Source.Parser

variable {α β : Type} {S : List Tree → Prop}

class Inherited (S : List Tree → Prop) : Prop where
  left_over : ∀ trees rest, rest <:+ trees → S trees → S rest
  inside : ∀ delimiter content rest, S (.group delimiter content :: rest) → S content

structure YieldsFrom (S : List Tree → Prop) (Q : α → Prop) (p : Parser α) : Prop where
  given : ∀ trees a rest, S trees → p trees = some (a, rest) → Q a

theorem yields_pure (Q : α → Prop) (a : α) (holds : Q a) : YieldsFrom S Q (pure a) where
  given trees b rest held run := by
    cases run
    exact holds

theorem yields_fail (Q : α → Prop) : YieldsFrom S Q (fail : Parser α) where
  given trees a rest held run := by cases run

theorem yields_ite (Q : α → Prop) (c : Prop) [Decidable c] (p q : Parser α) (kept : YieldsFrom S Q p)
    (other : YieldsFrom S Q q) : YieldsFrom S Q (if c then p else q) := by
  by_cases holds : c
  · rw [if_pos holds]
    exact kept
  · rw [if_neg holds]
    exact other

theorem yields_get : YieldsFrom S S (get : Parser (List Tree)) where
  given trees here rest held run := by
    cases run
    exact held

theorem yields_after_set {Q : α → Prop} {p : Parser α} (start : List Tree) (held : S start)
    (next : YieldsFrom S Q p) : YieldsFrom S Q (do set start; p) where
  given trees a rest _ run := by
    change p start = some (a, rest) at run
    exact next.given start a rest held run

theorem all_eq_some_iff (p : Parser α) (trees : List Tree) (a : α) :
    p.all trees = some a ↔ p trees = some (a, []) := by
  unfold all
  split
  · rename_i b run
    rw [run, Option.some_inj, Option.some_inj, Prod.mk.injEq, and_iff_left rfl]
  · rename_i other
    constructor
    · intro given
      cases given
    · intro run
      exact absurd run (other a)

theorem yields_all {Q : α → Prop} {p : Parser α} (content : List Tree) (held : S content)
    (inside : YieldsFrom S Q p) : YieldsFrom S Q (liftM (m := Option) (p.all content)) where
  given trees a rest _ run := by
    cases read : p.all content with
    | none =>
      rw [read] at run
      cases run
    | some b =>
      rw [read] at run
      cases run
      exact inside.given content a [] held ((all_eq_some_iff p content a).mp read)

theorem op_if_run (sign : String) (trees : List Tree) :
    opIf sign trees = some (atOp sign trees, if atOp sign trees then trees.drop sign.length else trees) := by
  rw [opIf, sees, bind_assoc, get_bind_run, pure_bind]
  cases atOp sign trees <;> rfl

theorem after_op_if {f : Bool → Parser α} {sign : String} {trees rest : List Tree} {a : α}
    (present : atOp sign trees = true) (run : (opIf sign >>= f) trees = some (a, rest)) :
    f true (trees.drop sign.length) = some (a, rest) := by
  obtain ⟨⟨b, middle⟩, run_sign, run_next⟩ := Option.bind_eq_some_iff.mp run
  rw [op_if_run, present] at run_sign
  cases run_sign
  exact run_next

theorem after_sees {f : Bool → Parser α} {look : List Tree → Bool} {trees rest : List Tree} {a : α}
    (present : look trees = true) (run : (sees look >>= f) trees = some (a, rest)) : f true trees = some (a, rest) := by
  change f (look trees) trees = some (a, rest) at run
  rwa [present] at run

theorem yields_seen {Q : α → Prop} {f : Bool → Parser α} {look : List Tree → Bool}
    (seen : ∀ trees a rest, S trees → look trees = true → f true trees = some (a, rest) → Q a)
    (unseen : YieldsFrom S Q (f false)) : YieldsFrom S Q (sees look >>= f) where
  given trees a rest held run := by
    change f (look trees) trees = some (a, rest) at run
    cases looked : look trees with
    | true =>
      rw [looked] at run
      exact seen trees a rest held looked run
    | false =>
      rw [looked] at run
      exact unseen.given trees a rest held run

theorem yields_looking {Q : α → Prop} {c : List Tree → Prop} [decide : ∀ trees, Decidable (c trees)]
    {p q : List Tree → Parser α} (kept : YieldsFrom S Q (get >>= p)) (other : YieldsFrom S Q (get >>= q)) :
    YieldsFrom S Q (get >>= fun trees => if c trees then p trees else q trees) where
  given trees a rest held run := by
    change (if c trees then p trees else q trees) trees = some (a, rest) at run
    by_cases holds : c trees
    · rw [if_pos holds] at run
      exact kept.given trees a rest held run
    · rw [if_neg holds] at run
      exact other.given trees a rest held run

variable [Inherited S]

theorem left_over_kept (p : Parser α) [stays : ∀ start, StaysIn start p] (trees : List Tree) (a : α) (rest : List Tree)
    (given : S trees) (run : p trees = some (a, rest)) : S rest :=
  Inherited.left_over trees rest ((stays trees).left_over trees a rest List.suffix_rfl run) given

theorem YieldsFrom.andThen {Q : α → Prop} {R : β → Prop} {p : Parser α} {f : α → Parser β}
    [stays : ∀ start, StaysIn start p] (first : YieldsFrom S Q p) (next : ∀ a, Q a → YieldsFrom S R (f a)) :
    YieldsFrom S R (p >>= f) where
  given trees b rest held run := by
    obtain ⟨⟨a, middle⟩, run_first, run_next⟩ := Option.bind_eq_some_iff.mp run
    have held_middle := left_over_kept p trees a middle held run_first
    exact (next a (first.given trees a middle held run_first)).given middle b rest held_middle run_next

theorem yields_after {R : β → Prop} {p : Parser α} {f : α → Parser β} [stays : ∀ start, StaysIn start p]
    (next : ∀ a, YieldsFrom S R (f a)) : YieldsFrom S R (p >>= f) :=
  have first : YieldsFrom S (fun _ => True) p := ⟨fun _ _ _ _ _ => trivial⟩
  first.andThen fun a _ => next a

theorem yields_in_group {Q : α → Prop} {delimiter : Delimiter} {p : Parser α} (inside : YieldsFrom S Q p) :
    YieldsFrom S Q (inGroup delimiter p) where
  given trees a rest held run := by
    obtain ⟨⟨tree, middle⟩, run_tree, run_inside⟩ := Option.bind_eq_some_iff.mp run
    cases trees with
    | nil => cases run_tree
    | cons first others =>
      cases run_tree
      cases tree with
      | group opened content =>
        dsimp only at run_inside
        by_cases same : opened = delimiter
        · rw [if_pos same] at run_inside
          cases read : p.all content with
          | none => rw [read] at run_inside; cases run_inside
          | some b =>
            rw [read] at run_inside
            cases run_inside
            have run := (all_eq_some_iff p content a).mp read
            exact inside.given content a [] (Inherited.inside opened content _ held) run
        · rw [if_neg same] at run_inside
          cases run_inside
      | _ => cases run_inside

theorem yields_group (delimiter : Delimiter) : YieldsFrom S S (group delimiter) := by
  apply yields_in_group
  apply yields_get.andThen
  intro content held
  apply yields_after
  intro emptied
  exact yields_pure _ _ held

theorem yields_until_end {Q : α → Prop} {item : Parser α} [stays : ∀ start, StaysIn start item]
    (each : YieldsFrom S Q item) (fuel : Nat) : YieldsFrom S (fun as => ∀ a ∈ as, Q a) (untilEnd item fuel) := by
  induction fuel with
  | zero => exact yields_fail _
  | succ fuel ih =>
    apply yields_after
    intro ended
    apply yields_ite
    · apply yields_pure
      intro a member
      cases member
    · apply each.andThen
      intro a holds
      apply ih.andThen
      intro others hold
      apply yields_pure
      exact List.forall_mem_cons.mpr ⟨holds, hold⟩

theorem yields_many {Q : α → Prop} {item : Parser α} [stays : ∀ start, StaysIn start item]
    (each : YieldsFrom S Q item) : YieldsFrom S (fun as => ∀ a ∈ as, Q a) (many item) := by
  apply yields_after
  intro enough
  exact yields_until_end each enough

theorem yields_listed {Q : α → Prop} {item : Parser α} [stays : ∀ start, StaysIn start item]
    (each : YieldsFrom S Q item) (fuel : Nat) : YieldsFrom S (fun found => ∀ a ∈ found.1, Q a) (listed item fuel) := by
  induction fuel with
  | zero => exact yields_fail _
  | succ fuel ih =>
    apply yields_after
    intro ended
    apply yields_ite
    · apply yields_pure
      intro a member
      cases member
    · apply each.andThen
      intro a holds
      apply yields_after
      intro last
      apply yields_ite
      · apply yields_pure
        exact List.forall_mem_cons.mpr ⟨holds, fun _ none => by cases none⟩
      · apply yields_after
        intro comma
        apply ih.andThen
        intro others hold
        apply yields_pure
        exact List.forall_mem_cons.mpr ⟨holds, hold⟩

theorem yields_comma_list {Q : α → Prop} {item : Parser α} [stays : ∀ start, StaysIn start item]
    (each : YieldsFrom S Q item) : YieldsFrom S (fun found => ∀ a ∈ found.1, Q a) (commaList item) := by
  apply yields_after
  intro enough
  exact yields_listed each enough

theorem yields_checked {Q : α → Prop} {c : Prop} [Decidable c] {look : List Tree → Bool} {p : Parser α}
    (next : YieldsFrom S Q p) : YieldsFrom S Q (if c then (do expect look; p) else p) :=
  yields_ite _ _ _ _ (yields_after fun _ => next) next

theorem yields_signed {Q : α → Prop} {sign : String} {enough : List Tree → Bool} {item : Parser α}
    [stays : ∀ start, StaysIn start item] (each : YieldsFrom S Q item) (fuel : Nat) :
    YieldsFrom S (fun found => ∀ a ∈ found.1, Q a) (signed sign enough item fuel) := by
  induction fuel with
  | zero => exact yields_fail _
  | succ fuel ih =>
    apply yields_after
    intro ended
    apply yields_ite
    · apply yields_pure
      intro a member
      cases member
    · apply each.andThen
      intro a holds
      apply yields_after
      intro present
      apply yields_ite
      · apply ih.andThen
        intro others hold
        apply yields_pure
        exact List.forall_mem_cons.mpr ⟨holds, hold⟩
      · apply yields_pure
        exact List.forall_mem_cons.mpr ⟨holds, fun _ none => by cases none⟩

end ResourceRoutes.Source.Parser
