import ResourceRoutes.Proofs.Source.Token.Tidied
set_option autoImplicit false

/- Tokens read again, apart from blanks in literals and from the notes which signs are joint. -/
namespace ResourceRoutes.Source.Tree

def Held (tree read : Tree) (rest : List Tree) : Prop :=
  tree.isJoint = true → ∀ c joint, rest.head? = some (.punct c joint) → c ≠ '/' → read.isJoint = true

mutual
inductive Reread : Tree → Tree → Prop where
  | ident (name : List Char) : Reread (.ident name) (.ident name)
  | lifetime (name : List Char) : Reread (.lifetime name) (.lifetime name)
  | literal (text : List Char) : Reread (.literal text) (.literal (tidy text))
  | punct (c : Char) (joint joint' : Bool) : Reread (.punct c joint) (.punct c joint')
  | group (delimiter : Delimiter) (content inside : List Tree) (same : RereadAll content inside) :
      Reread (.group delimiter content) (.group delimiter inside)

inductive RereadAll : List Tree → List Tree → Prop where
  | nil : RereadAll [] []
  | cons (tree read : Tree) (rest others : List Tree) (first : Reread tree read) (held : Held tree read rest)
      (behind : RereadAll rest others) : RereadAll (tree :: rest) (read :: others)
end

mutual
def loosened : Tree → Tree
  | .punct c _ => .punct c false
  | .group delimiter content => .group delimiter (loosenedAll content)
  | tree => tree

def loosenedAll : List Tree → List Tree
  | [] => []
  | tree :: rest => tree.loosened :: loosenedAll rest
end

mutual
theorem Reread.loosened {tree read : Tree} (same : Reread tree read) : read.loosened = tree.tidied.loosened := by
  cases same with
  | group delimiter content inside same =>
    rw [Tree.loosened, same.loosened]
    rfl
  | _ => rfl

theorem RereadAll.loosened {trees read : List Tree} (same : RereadAll trees read) :
    loosenedAll read = loosenedAll (tidiedAll trees) := by
  cases same with
  | nil => rfl
  | cons tree read rest others first held behind => rw [loosenedAll, tidiedAll, loosenedAll, first.loosened, behind.loosened]
end

variable {name : List Char} {delimiter : Delimiter} {c : Char} {joint : Bool} {a b content rest read : List Tree}

theorem RereadAll.append (same : RereadAll (a ++ b) read) :
    ∃ first second, read = first ++ second ∧ RereadAll a first ∧ RereadAll b second := by
  induction a generalizing read with
  | nil => exact ⟨[], read, rfl, .nil, same⟩
  | cons tree a ih =>
    cases same with
    | cons _ own _ others first held behind =>
      obtain ⟨inner, second, rfl, same_inner, same_second⟩ := ih behind
      refine ⟨own :: inner, second, rfl, .cons tree own a inner first ?_ same_inner, same_second⟩
      intro joined c joint next no_slash
      cases a with
      | nil => cases next
      | cons following a => exact held joined c joint next no_slash

theorem RereadAll.length (same : RereadAll a read) : read.length = a.length := by
  induction a generalizing read with
  | nil =>
    cases same
    rfl
  | cons tree a ih =>
    cases same with
    | cons _ own _ others first held behind => rw [List.length_cons, List.length_cons, ih behind]

theorem RereadAll.of_ident (same : RereadAll (.ident name :: rest) read) :
    ∃ others, read = .ident name :: others ∧ RereadAll rest others := by
  cases same with
  | cons _ own _ others first held behind =>
    cases first
    exact ⟨others, rfl, behind⟩

theorem RereadAll.of_lifetime (same : RereadAll (.lifetime name :: rest) read) :
    ∃ others, read = .lifetime name :: others ∧ RereadAll rest others := by
  cases same with
  | cons _ own _ others first held behind =>
    cases first
    exact ⟨others, rfl, behind⟩

theorem RereadAll.of_sign (same : RereadAll (.punct c joint :: rest) read) :
    ∃ joint' others, read = .punct c joint' :: others ∧ RereadAll rest others := by
  cases same with
  | cons _ own _ others first held behind =>
    cases first with
    | punct _ _ joint' => exact ⟨joint', others, rfl, behind⟩

theorem RereadAll.of_group (same : RereadAll (.group delimiter content :: rest) read) :
    ∃ inside others, read = .group delimiter inside :: others ∧ RereadAll content inside ∧ RereadAll rest others := by
  cases same with
  | cons _ own _ others first held behind =>
    cases first with
    | group _ _ inside same => exact ⟨inside, others, rfl, same, behind⟩

theorem RereadAll.of_pair {d : Char} (same : RereadAll (.punct c true :: .punct d joint :: rest) read)
    (no_slash : d ≠ '/') :
    ∃ joint' others, read = .punct c true :: .punct d joint' :: others ∧ RereadAll rest others := by
  cases same with
  | cons _ own _ behind_own first held behind =>
    have joined := held rfl d joint rfl no_slash
    cases first with
    | punct _ _ joint' =>
      cases joined
      obtain ⟨joint', others, rfl, same_rest⟩ := behind.of_sign
      exact ⟨joint', others, rfl, same_rest⟩

theorem RereadAll.of_kept {text : List Char} (kept : Unglued text) (same : RereadAll (.literal text :: rest) read) :
    ∃ others, read = .literal text :: others ∧ RereadAll rest others := by
  cases same with
  | cons _ own _ others first held behind =>
    cases first
    rw [(tidy_eq_iff text).mpr kept]
    exact ⟨others, rfl, behind⟩

end ResourceRoutes.Source.Tree
