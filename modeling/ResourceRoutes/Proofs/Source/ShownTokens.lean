import ResourceRoutes.Proofs.Source.PlainTypes
import ResourceRoutes.Proofs.Source.Reading.ReadAgain
import ResourceRoutes.Proofs.Source.Token.ReadBack
set_option autoImplicit false

/- Tidying takes blanks out of literals too, as if the signs in them were tokens. -/
namespace ResourceRoutes.Source

open ResourceRoutes.Source.Tree (loosened loosenedAll tidied tidiedAll RereadAll)

mutual
def Tree.literals : Tree → List (List Char)
  | .literal text => [text]
  | .group _ content => Tree.literalsOfAll content
  | _ => []

def Tree.literalsOfAll : List Tree → List (List Char)
  | [] => []
  | tree :: rest => tree.literals ++ Tree.literalsOfAll rest
end

def TypeExpr.LiteralsKept (t : TypeExpr) : Prop := ∀ text ∈ Tree.literalsOfAll t.trees, Unglued text

mutual
theorem tidied_loosened_iff (tree : Tree) :
    tree.tidied.loosened = tree.loosened ↔ ∀ text ∈ tree.literals, Unglued text := by
  cases tree with
  | literal text =>
    have shown_text : (Tree.literal text).tidied.loosened = .literal (tidy text) := rfl
    have own_text : (Tree.literal text).loosened = .literal text := rfl
    rw [shown_text, own_text, Tree.literal.injEq, tidy_eq_iff, Tree.literals, List.forall_mem_singleton]
  | group delimiter content =>
    rw [tidied, loosened, loosened, Tree.group.injEq, and_iff_right rfl, tidied_all_loosened_iff content, Tree.literals]
  | ident name => exact iff_of_true rfl (List.forall_mem_nil _)
  | lifetime name => exact iff_of_true rfl (List.forall_mem_nil _)
  | punct c joint => exact iff_of_true rfl (List.forall_mem_nil _)

theorem tidied_all_loosened_iff (trees : List Tree) :
    loosenedAll (tidiedAll trees) = loosenedAll trees ↔ ∀ text ∈ Tree.literalsOfAll trees, Unglued text := by
  cases trees with
  | nil => exact iff_of_true rfl (List.forall_mem_nil _)
  | cons tree rest =>
    rw [tidiedAll, loosenedAll, loosenedAll, List.cons.injEq, tidied_loosened_iff tree, tidied_all_loosened_iff rest,
      Tree.literalsOfAll, List.forall_mem_append]
end

mutual
theorem reread_self (tree : Tree) (kept : ∀ text ∈ tree.literals, Unglued text) : Tree.Reread tree tree := by
  cases tree with
  | ident name => exact .ident name
  | lifetime name => exact .lifetime name
  | literal text =>
    have same := Tree.Reread.literal text
    rwa [(tidy_eq_iff text).mpr (List.forall_mem_singleton.mp kept)] at same
  | punct c joint => exact .punct c joint joint
  | group delimiter content => exact .group delimiter content content (reread_all_self content kept)

theorem reread_all_self (trees : List Tree) (kept : ∀ text ∈ Tree.literalsOfAll trees, Unglued text) :
    RereadAll trees trees := by
  cases trees with
  | nil => exact .nil
  | cons tree rest =>
    obtain ⟨own, others⟩ := List.forall_mem_append.mp kept
    have held : Tree.Held tree tree rest := fun joined _ _ _ _ => joined
    exact .cons tree tree rest rest (reread_self tree own) held (reread_all_self rest others)
end

theorem TypeExpr.Ordinary.of_text {t : TypeExpr} (own : t.Ordinary) (kept : t.LiteralsKept) (text : List Char)
    (lexed : trees? text = some t.trees) : TypeExpr.ofText? text = some t := by
  rw [TypeExpr.ofText?, lexed]
  exact own.read (reread_all_self t.trees kept)

theorem type_of_text_plain (text : List Char) (t : TypeExpr) (parsed : TypeExpr.ofText? text = some t) : t.Plain := by
  obtain ⟨trees, lexed, read⟩ := Option.bind_eq_some_iff.mp parsed
  have run := (Parser.all_eq_some_iff _ _ _).mp read
  have given : Parser.Gives TypeExpr.Plain Parser.anyType :=
    Parser.yields_after fun fuel => (Parser.types_plain fuel).typeExpr true
  exact given.given trees t [] (trees_sound text trees lexed) run

theorem display_read (text : List Char) (t : TypeExpr) (parsed : TypeExpr.ofText? text = some t) :
    ∃ read, trees? t.display.toList = some read ∧ RereadAll t.trees read := by
  have plain := type_of_text_plain text t parsed
  exact shown_read t.trees plain.sound plain.uncommented

def spacedLiteral : TypeExpr :=
  .path false [.mk "F".toList (.angled false [.other [.literal "\"a b\"".toList]] false)]

theorem spaced_literal_ordinary : spacedLiteral.Ordinary := by
  have kept : Unglued "\"a b\"".toList := (tidy_eq_iff _).mp (by decide)
  refine .path false _ (List.cons_ne_nil _ _) (List.forall_mem_singleton.mpr ?_)
  refine .angled "F".toList false [] _ false (.inl (by decide)) (List.forall_mem_singleton.mpr ?_) nofun
  exact .literal _ kept

end ResourceRoutes.Source
