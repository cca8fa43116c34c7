import ResourceRoutes.Proofs.Source.Token.Alone
import ResourceRoutes.Source.Display
set_option autoImplicit false

namespace ResourceRoutes.Source

open Lexeme (Thinned quotes)

def tidyBehind : List Char → List Char → List Char
  | _, [] => []
  | shown, c :: rest =>
    if c = ' ' ∧ (gluesAfter shown ∨ gluesBefore rest) then tidyBehind shown rest else c :: tidyBehind (c :: shown) rest

theorem tidy_after_behind (shown cs : List Char) : tidyAfter shown cs = shown.reverse ++ tidyBehind shown cs := by
  fun_induction tidyAfter shown cs with
  | case1 => rw [tidyBehind, List.append_nil]
  | case2 shown c rest glued ih => rw [ih, tidyBehind, if_pos glued]
  | case3 shown c rest kept ih =>
    rw [ih, tidyBehind, if_neg kept, List.reverse_cons, List.append_assoc, List.singleton_append]

theorem tidy_behind (cs : List Char) : tidy cs = tidyBehind [] cs := tidy_after_behind [] cs

theorem tidy_behind_sign (shown : List Char) (c : Char) (rest : List Char) (solid : c ≠ ' ') :
    tidyBehind shown (c :: rest) = c :: tidyBehind (c :: shown) rest := by
  rw [tidyBehind, if_neg fun glued => solid glued.1]

theorem tidy_behind_blank (shown rest : List Char) :
    (tidyBehind shown (' ' :: rest) = tidyBehind shown rest ∧ (gluesAfter shown = true ∨ gluesBefore rest = true)) ∨
      tidyBehind shown (' ' :: rest) = ' ' :: tidyBehind (' ' :: shown) rest := by
  by_cases glued : gluesAfter shown = true ∨ gluesBefore rest = true
  · rw [tidyBehind, if_pos ⟨rfl, glued⟩]
    exact .inl ⟨rfl, glued⟩
  · rw [tidyBehind, if_neg fun both => glued both.2]
    exact .inr rfl

theorem glues_before_cases (rest : List Char) (glued : gluesBefore rest = true) :
    ∃ c others, rest = c :: others ∧ c ∈ "<>)],:;".toList := by
  cases rest with
  | nil => cases glued
  | cons c others => exact ⟨c, others, rfl, List.contains_iff_mem.mp glued⟩

theorem glues_after_cases (shown : List Char) (glued : gluesAfter shown = true) :
    ∃ c others, shown = c :: others ∧ c ∈ ":&<([".toList := by
  unfold gluesAfter at glued
  split at glued
  · exact ⟨':', _, rfl, by decide⟩
  · rename_i c others _
    exact ⟨c, others, rfl, List.mem_cons_of_mem ':' (List.contains_iff_mem.mp glued)⟩
  · cases glued

theorem tidy_behind_thinned (shown cs : List Char) : Thinned (shown.head?.getD ' ') cs (tidyBehind shown cs) := by
  fun_induction tidyBehind shown cs with
  | case1 => exact .nil _
  | case2 shown c rest glued ih =>
    obtain ⟨rfl, glue⟩ := glued
    refine .drop _ rest _ ih ?_
    intro quote c first
    cases glue with
    | inl after =>
      obtain ⟨d, others, rfl, listed⟩ := glues_after_cases shown after
      have each : ∀ d ∈ ":&<([".toList, d ∉ quotes := Lexeme.of_each (by decide)
      exact absurd quote (each d listed)
    | inr before =>
      obtain ⟨d, others, rfl, listed⟩ := glues_before_cases rest before
      have each : ∀ d ∈ "<>)],:;".toList, d ≠ ' ' ∧ d ∉ quotes := Lexeme.of_each (by decide)
      rw [tidy_behind_sign shown d others (each d listed).1] at first
      cases first
      exact (each c listed).2
  | case3 shown c rest kept ih => exact .keep _ c rest _ ih

theorem tidy_thinned (text : List Char) : Thinned ' ' text (tidy text) := by
  rw [tidy_behind]
  exact tidy_behind_thinned [] text

theorem tidy_solid (text : List Char) (solid : ' ' ∉ text) : tidy text = text :=
  Lexeme.thinned_solid ' ' text (tidy text) solid (tidy_thinned text)

def Unglued (text : List Char) : Prop :=
  ∀ front rest, text = front ++ ' ' :: rest → gluesAfter front.reverse = false ∧ gluesBefore rest = false

theorem tidy_behind_sublist (shown text : List Char) : (tidyBehind shown text).Sublist text := by
  fun_induction tidyBehind shown text with
  | case1 => exact List.Sublist.refl []
  | case2 shown c rest glued ih => exact ih.cons c
  | case3 shown c rest kept ih => exact ih.cons_cons c

theorem tidy_behind_eq_iff (shown text : List Char) :
    tidyBehind shown text = text ↔ ∀ front rest, text = front ++ ' ' :: rest →
      gluesAfter (front.reverse ++ shown) = false ∧ gluesBefore rest = false := by
  fun_induction tidyBehind shown text with
  | case1 =>
    refine iff_of_true rfl ?_
    intro front rest same
    cases front <;> cases same
  | case2 shown c rest glued ih =>
    obtain ⟨rfl, glue⟩ := glued
    constructor
    · intro same
      -- a blank that was dropped makes the text shorter
      have short := (tidy_behind_sublist shown rest).length_le
      rw [same, List.length_cons] at short
      omega
    · intro unglued
      obtain ⟨not_after, not_before⟩ := unglued [] rest rfl
      rw [List.reverse_nil, List.nil_append] at not_after
      rw [not_after, not_before] at glue
      simp at glue
  | case3 shown c rest kept ih =>
    rw [List.cons.injEq, and_iff_right rfl, ih]
    constructor
    · intro unglued front after same
      cases front with
      | nil =>
        cases same
        simpa using kept
      | cons d front =>
        cases same
        simpa using unglued front after rfl
    · rintro unglued front after rfl
      simpa using unglued (c :: front) after rfl

theorem tidy_eq_iff (text : List Char) : tidy text = text ↔ Unglued text := by
  rw [tidy_behind, tidy_behind_eq_iff]
  simp only [List.append_nil]
  rfl

theorem tidy_behind_split (shown text rest : List Char) (seam : text.getLast? = some ' ' → gluesBefore rest = false) :
    tidyBehind shown (text ++ rest) =
      tidyBehind shown text ++ tidyBehind ((tidyBehind shown text).reverse ++ shown) rest := by
  induction text generalizing shown with
  | nil => rfl
  | cons c text ih =>
    have seam_rest : text.getLast? = some ' ' → gluesBefore rest = false := by
      intro last
      cases text with
      | nil => cases last
      | cons d text => exact seam (by rw [List.getLast?_cons_cons, last])
    by_cases blank : c = ' '
    · subst blank
      have before : gluesBefore (text ++ rest) = gluesBefore text := by
        cases text with
        | nil => exact seam rfl
        | cons d text => rfl
      rw [List.cons_append, tidyBehind, tidyBehind, before]
      by_cases glued : gluesAfter shown = true ∨ gluesBefore text = true
      · rw [if_pos ⟨rfl, glued⟩, if_pos ⟨rfl, glued⟩, ih shown seam_rest]
      · rw [if_neg fun both => glued both.2, if_neg fun both => glued both.2, ih (' ' :: shown) seam_rest]
        simp
    · rw [List.cons_append, tidy_behind_sign shown c _ blank, tidy_behind_sign shown c _ blank,
        ih (c :: shown) seam_rest]
      simp

theorem glues_after_append (front shown : List Char) (c : Char) (no_colon : c ≠ ':') :
    gluesAfter (front ++ c :: shown) = gluesAfter (front ++ [c]) := by
  cases front with
  | nil => simp [gluesAfter, no_colon]
  | cons d front =>
    cases front with
    | nil => simp [gluesAfter, no_colon]
    | cons e front =>
      by_cases colons : d = ':' ∧ e = ':'
      · simp [gluesAfter, colons]
      · rw [not_and] at colons
        rw [List.cons_append, List.cons_append, List.cons_append, List.cons_append, gluesAfter, gluesAfter]
        · intro tail first same
          cases same
          exact colons first rfl
        · intro tail first same
          cases same
          exact colons first rfl

theorem tidy_behind_shown (front shown text : List Char) (c : Char) (no_colon : c ≠ ':') :
    tidyBehind (front ++ c :: shown) text = tidyBehind (front ++ [c]) text := by
  induction text generalizing front with
  | nil => rfl
  | cons d text ih =>
    rw [tidyBehind, tidyBehind, glues_after_append front shown c no_colon, ih front, ← List.cons_append, ih (d :: front)]
    rfl

theorem tidy_behind_word (shown word rest : List Char) (begins : ∃ c ∈ word.head?, c ≠ ':' ∧ c ≠ ' ')
    (closed : word.getLast? ≠ some ' ') :
    tidyBehind shown (word ++ rest) = tidy word ++ tidyBehind ((tidy word).reverse ++ shown) rest := by
  have alone : tidyBehind shown word = tidy word := by
    obtain ⟨c, first, no_colon, solid⟩ := begins
    cases word with
    | nil => cases first
    | cons d text =>
      cases first
      rw [tidy_behind, tidy_behind_sign shown c text solid, tidy_behind_sign [] c text solid]
      exact congrArg (c :: ·) (tidy_behind_shown [] shown text c no_colon)
  rw [tidy_behind_split shown word rest fun last => absurd last closed, alone]

namespace Tree

mutual
def tidied : Tree → Tree
  | .literal text => .literal (tidy text)
  | .group delimiter content => .group delimiter (tidiedAll content)
  | tree => tree

def tidiedAll : List Tree → List Tree
  | [] => []
  | tree :: rest => tree.tidied :: tidiedAll rest
end

theorem Spelled.tidied_word {tree : Tree} (spelled : tree.Spelled) :
    tree.tidied.Word ∧ tree.tidied.text = tidy tree.text := by
  cases spelled with
  | ident name word solid => exact ⟨word, (tidy_solid name solid).symm⟩
  | lifetime name word solid => exact ⟨word, (tidy_solid name solid).symm⟩
  | literal text lasting => exact ⟨literal_word _ (lasting _ (tidy_thinned text)), rfl⟩

theorem Spelled.word {tree : Tree} (spelled : tree.Spelled) : tree.Word := by
  cases spelled with
  | ident name word solid => exact word
  | lifetime name word solid => exact word
  | literal text lasting => exact literal_word text lasting.literal

end Tree

end ResourceRoutes.Source
