import Mathlib.Data.List.Infix
import ResourceRoutes.Proofs.Source.Ink
import ResourceRoutes.Proofs.Source.Token.Tidied
set_option autoImplicit false

/- Whether a blank stays is decided by what is shown of the text in front of it. -/
namespace ResourceRoutes.Source

theorem tidy_sublist (text : List Char) : (tidy text).Sublist text := by
  rw [tidy_behind]
  exact tidy_behind_sublist [] text

theorem glues_before_blank (before after : List Char) : gluesBefore (before ++ ' ' :: after) = gluesBefore before := by
  cases before with
  | nil => rfl
  | cons c before => rfl

theorem blank_left (shown text front rest : List Char) (left : tidyBehind shown text = front ++ ' ' :: rest) :
    ∃ before after, text = before ++ ' ' :: after ∧ tidyBehind shown before = front ∧
      tidyBehind (' ' :: (front.reverse ++ shown)) after = rest ∧
      gluesAfter (front.reverse ++ shown) = false ∧ gluesBefore after = false := by
  fun_induction tidyBehind shown text generalizing front with
  | case1 => cases front <;> cases left
  | case2 shown c text glued ih =>
    obtain ⟨before, after, rfl, same, kept⟩ := ih front left
    rw [glues_before_blank] at glued
    exact ⟨c :: before, after, rfl, by rw [tidyBehind, if_pos glued, same], kept⟩
  | case3 shown c text kept ih =>
    cases front with
    | nil =>
      obtain ⟨rfl, rfl⟩ := List.cons.inj left
      exact ⟨[], text, rfl, rfl, rfl, by simpa using kept⟩
    | cons d front =>
      obtain ⟨rfl, left_behind⟩ := List.cons.inj left
      obtain ⟨before, after, rfl, same, same_rest, unglued⟩ := ih front left_behind
      rw [glues_before_blank] at kept
      refine ⟨c :: before, after, rfl, ?_, ?_, ?_⟩
      · rw [tidyBehind, if_neg kept, same]
      · simpa using same_rest
      · simpa using unglued

theorem blank_left_iff (text front rest : List Char) :
    tidy text = front ++ ' ' :: rest ↔
      ∃ before after, text = before ++ ' ' :: after ∧ tidy before = front ∧
        tidyBehind (' ' :: front.reverse) after = rest ∧
        gluesAfter front.reverse = false ∧ gluesBefore after = false := by
  constructor
  · intro left
    rw [tidy_behind] at left
    simpa only [tidy_behind, List.append_nil] using blank_left [] text front rest left
  · intro kept
    obtain ⟨before, after, rfl, rfl, rfl, not_behind, not_before⟩ := kept
    rw [tidy_behind, tidy_behind_split [] before (' ' :: after) fun _ => rfl, ← tidy_behind, List.append_nil,
      tidyBehind, if_neg]
    simp [not_behind, not_before]

theorem stop_no_blank {text : List Char} (stop : gluesBefore text = true) : text.head? ≠ some ' ' := by
  obtain ⟨c, rest, rfl, listed⟩ := glues_before_cases text stop
  intro blank
  cases blank
  exact absurd listed (by decide)

theorem glues_before_tidied (shown : List Char) {text : List Char} (starts : text.head? ≠ some ' ') :
    gluesBefore (tidyBehind shown text) = gluesBefore text := by
  cases text with
  | nil => rfl
  | cons c rest =>
    rw [tidy_behind_sign shown c rest fun blank => starts (congrArg some blank)]
    rfl

theorem stop_in_front_iff (shown text : List Char) (unglued : gluesAfter shown = false) :
    gluesBefore (tidyBehind shown text) = true ↔
      gluesBefore text = true ∨ ∃ rest, text = ' ' :: rest ∧ gluesBefore rest = true := by
  by_cases blank : text.head? = some ' '
  · obtain ⟨rest, rfl⟩ := List.head?_eq_some_iff.mp blank
    by_cases stop : gluesBefore rest = true
    · rw [tidyBehind, if_pos ⟨rfl, .inr stop⟩, glues_before_tidied shown (stop_no_blank stop)]
      exact iff_of_true stop (.inr ⟨rest, rfl, stop⟩)
    · rw [tidyBehind, if_neg (by simp [unglued, stop])]
      refine iff_of_false Bool.false_ne_true ?_
      intro either
      cases either with
      | inl never => cases never
      | inr single =>
        obtain ⟨others, same, in_front⟩ := single
        cases same
        exact stop in_front
  · rw [glues_before_tidied shown blank]
    refine (or_iff_left ?_).symm
    intro single
    obtain ⟨rest, rfl, -⟩ := single
    exact blank rfl

theorem tidy_settled_iff (text : List Char) :
    tidy (tidy text) = tidy text ↔ ∀ before after, text = before ++ ' ' :: ' ' :: after → gluesBefore after = true →
      gluesAfter (tidy before).reverse = true := by
  rw [tidy_eq_iff]
  constructor
  · intro unglued before after same stop
    subst same
    by_contra no_glue
    rw [Bool.not_eq_true] at no_glue
    have left := (blank_left_iff _ _ _).mpr ⟨before, ' ' :: after, rfl, rfl, rfl, no_glue, rfl⟩
    have in_front := (stop_in_front_iff (' ' :: (tidy before).reverse) (' ' :: after) rfl).mpr (.inr ⟨after, rfl, stop⟩)
    rw [(unglued _ _ left).2] at in_front
    cases in_front
  · intro doubled front rest same
    obtain ⟨before, after, rfl, rfl, rfl, no_glue, no_stop⟩ := (blank_left_iff text front rest).mp same
    refine ⟨no_glue, ?_⟩
    by_contra stop
    rw [Bool.not_eq_false, stop_in_front_iff _ _ rfl, no_stop] at stop
    obtain ⟨others, rfl, in_front⟩ := stop.resolve_left Bool.false_ne_true
    rw [doubled before others rfl in_front] at no_glue
    cases no_glue

example : tidy "(A  , B)".toList = "(A , B)".toList ∧ tidy "(A , B)".toList = "(A, B)".toList := by decide

def glueSigns : List (List Char) := ["&", "<", "(", "[", "::"].map String.toList

def stopSigns : List Char := "<>)],:;".toList

theorem glues_after_iff (front : List Char) : gluesAfter front.reverse = true ↔ ∃ sign ∈ glueSigns, sign <:+ front := by
  constructor
  · intro glued
    generalize reversed : front.reverse = shown at glued
    unfold gluesAfter at glued
    split at glued
    · refine ⟨"::".toList, by decide, List.reverse_prefix.mp ?_⟩
      rw [reversed]
      exact List.prefix_append [':', ':'] _
    · rename_i c rest _
      have each : ∀ c ∈ "&<([".toList, [c] ∈ glueSigns := Lexeme.of_each (by decide)
      refine ⟨[c], each c (List.contains_iff_mem.mp glued), List.reverse_prefix.mp ?_⟩
      rw [reversed]
      exact List.prefix_append [c] rest
    · cases glued
  · intro behind
    obtain ⟨sign, listed, before, rfl⟩ := behind
    have each : ∀ sign ∈ glueSigns, ∀ shown, gluesAfter (sign.reverse ++ shown) = true := by
      simp [glueSigns, gluesAfter]
    rw [List.reverse_append]
    exact each sign listed before.reverse

theorem glues_before_iff (text : List Char) : gluesBefore text = true ↔ ∃ sign ∈ stopSigns, [sign] <+: text := by
  constructor
  · intro stop
    obtain ⟨c, rest, rfl, listed⟩ := glues_before_cases text stop
    exact ⟨c, listed, List.prefix_append [c] rest⟩
  · intro in_front
    obtain ⟨sign, listed, rest, rfl⟩ := in_front
    exact List.contains_iff_mem.mpr listed

theorem tidy_no_blank_behind (text sign : List Char) (listed : sign ∈ glueSigns) : ¬ sign ++ [' '] <:+: tidy text := by
  intro found
  obtain ⟨front, rest, same⟩ := found
  have left : tidy text = (front ++ sign) ++ ' ' :: rest := by
    rw [← same]
    simp
  obtain ⟨_, _, _, _, _, no_glue, _⟩ := (blank_left_iff text (front ++ sign) rest).mp left
  rw [(glues_after_iff _).mpr ⟨sign, listed, List.suffix_append front sign⟩] at no_glue
  cases no_glue

theorem unglued_no_blank_before {text : List Char} (unglued : Unglued text) (sign : Char) (listed : sign ∈ stopSigns) :
    ¬ [' ', sign] <:+: text := by
  intro found
  obtain ⟨front, rest, rfl⟩ := found
  have no_stop := (unglued front (sign :: rest) (by simp)).2
  have stop : gluesBefore (sign :: rest) = true :=
    (glues_before_iff _).mpr ⟨sign, listed, List.prefix_append [sign] rest⟩
  rw [stop] at no_stop
  cases no_stop

theorem blank_kept (before after : List Char) (no_glue : ∀ sign ∈ glueSigns, ¬ sign <:+ tidy before)
    (no_stop : ∀ sign ∈ stopSigns, ¬ [sign] <+: after) : tidy before ++ [' '] <+: tidy (before ++ ' ' :: after) := by
  have unglued : gluesAfter (tidy before).reverse = false := by
    rw [Bool.eq_false_iff]
    intro glued
    obtain ⟨sign, listed, behind⟩ := (glues_after_iff _).mp glued
    exact no_glue sign listed behind
  have unstopped : gluesBefore after = false := by
    rw [Bool.eq_false_iff]
    intro stop
    obtain ⟨sign, listed, in_front⟩ := (glues_before_iff _).mp stop
    exact no_stop sign listed in_front
  rw [(blank_left_iff _ _ _).mpr ⟨before, after, rfl, rfl, rfl, unglued, unstopped⟩]
  exact (List.prefix_append_right_inj _).mpr (List.prefix_append [' '] _)

theorem tidy_laws (text : List Char) :
    (tidy text).Sublist text ∧ ink (tidy text) = ink text ∧
      (∀ before after, text = before ++ ' ' :: after → (∀ sign ∈ glueSigns, ¬ sign <:+ tidy before) →
        (∀ sign ∈ stopSigns, ¬ [sign] <+: after) → tidy before ++ [' '] <+: tidy text) ∧
      (∀ sign ∈ glueSigns, ¬ sign ++ [' '] <:+: tidy text) ∧
      (¬ [' ', ' '] <:+: text →
        tidy (tidy text) = tidy text ∧ ∀ sign ∈ stopSigns, ¬ [' ', sign] <:+: tidy text) := by
  refine ⟨tidy_sublist text, ink_tidy text, ?_, tidy_no_blank_behind text, ?_⟩
  · intro before after same no_glue no_stop
    rw [same]
    exact blank_kept before after no_glue no_stop
  · intro single
    have settled : tidy (tidy text) = tidy text := by
      rw [tidy_settled_iff]
      intro before after doubled
      exact absurd ⟨before, after, by simp [doubled]⟩ single
    exact ⟨settled, unglued_no_blank_before ((tidy_eq_iff _).mp settled)⟩

def spacedType : List Char := "& mut std :: Vec < ([u8 ; 4] , & T) >".toList

theorem spaced_type_tidied :
    ¬ [' ', ' '] <:+: spacedType ∧ tidy spacedType = "&mut std::Vec<([u8; 4], &T)>".toList ∧
      tidy "& mut".toList ++ [' '] <+: tidy spacedType ∧ ¬ "::".toList ++ [' '] <:+: tidy spacedType ∧
      tidy (tidy spacedType) = tidy spacedType ∧ ¬ [' ', ';'] <:+: tidy spacedType := by
  have single : ¬ [' ', ' '] <:+: spacedType := by decide
  obtain ⟨-, -, kept, none_behind, of_single⟩ := tidy_laws spacedType
  obtain ⟨settled, none_before⟩ := of_single single
  have no_stop : ∀ sign ∈ stopSigns, ¬ [sign] <+: "std :: Vec < ([u8 ; 4] , & T) >".toList := Lexeme.of_each (by decide)
  have kept_blank := kept "& mut".toList "std :: Vec < ([u8 ; 4] , & T) >".toList rfl (by decide) no_stop
  exact ⟨single, by decide, kept_blank, none_behind "::".toList (by decide), settled, none_before ';' (by decide)⟩

end ResourceRoutes.Source
