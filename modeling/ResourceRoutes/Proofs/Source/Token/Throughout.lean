import ResourceRoutes.Source.Token.Lexer
set_option autoImplicit false

/- What holds of every token that the characters of a text are read as. -/
namespace ResourceRoutes.Source

namespace Tree

inductive Throughout (P : Tree → Prop) : Tree → Prop where
  | ident (name : List Char) (own : P (.ident name)) : Throughout P (.ident name)
  | lifetime (name : List Char) (own : P (.lifetime name)) : Throughout P (.lifetime name)
  | literal (text : List Char) (own : P (.literal text)) : Throughout P (.literal text)
  | punct (c : Char) (joint : Bool) (own : P (.punct c joint)) : Throughout P (.punct c joint)
  | group (delimiter : Delimiter) (content : List Tree) (inside : ∀ tree ∈ content, Throughout P tree) :
      Throughout P (.group delimiter content)

end Tree

open ResourceRoutes.Source.Tree (Throughout)

variable (P : Tree → Prop)

structure HoldsOfTokens : Prop where
  token : ∀ cs tree n, token? cs = some (tree, n) → Throughout P tree
  comment : ∀ comment : DocComment, ∀ tree ∈ comment.trees, Throughout P tree

variable {P}

theorem read_trees_throughout (holds : HoldsOfTokens P) (fuel : Nat) (cs : List Char) (groups : List OpenGroup)
    (read trees : List Tree) (before : ∀ opened ∈ groups, ∀ tree ∈ opened.2, Throughout P tree)
    (inside : ∀ tree ∈ read, Throughout P tree) (lexed : readTrees? fuel cs groups read = some trees) :
    ∀ tree ∈ trees, Throughout P tree := by
  fun_induction readTrees? fuel cs groups read with
  -- a comment that documents
  | case2 fuel cs groups read cs' comment found ih =>
    apply ih before _ lexed
    intro tree member
    cases List.mem_append.mp member with
    | inl of_comment => exact holds.comment comment tree (List.mem_reverse.mp of_comment)
    | inr earlier => exact inside tree earlier
  -- the end of the text
  | case3 =>
    cases lexed
    intro tree member
    exact inside tree (List.mem_reverse.mp member)
  -- a group is opened
  | case5 fuel cs groups read cs' _ c rest _ delimiter _ ih =>
    apply ih _ _ lexed
    · intro opened member
      cases List.mem_cons.mp member with
      | inl last => exact last ▸ inside
      | inr earlier => exact before opened earlier
    · intro tree member
      cases member
  -- a group is closed
  | case6 fuel cs read cs' _ c rest _ _ opened outside outer _ ih =>
    apply ih (fun opened member => before opened (List.mem_cons_of_mem _ member)) _ lexed
    intro tree member
    cases List.mem_cons.mp member with
    | inl closed => exact closed ▸ .group opened read.reverse fun tree member => inside tree (List.mem_reverse.mp member)
    | inr earlier => exact before _ (List.mem_cons_self ..) tree earlier
  -- a word or a sign
  | case9 fuel cs groups read cs' _ c rest _ _ _ token n found ih =>
    apply ih before _ lexed
    intro tree member
    cases List.mem_cons.mp member with
    | inl last => exact last ▸ holds.token cs' token n found
    | inr earlier => exact inside tree earlier
  | _ => cases lexed

theorem trees_throughout (holds : HoldsOfTokens P) (cs : List Char) (trees : List Tree) (lexed : trees? cs = some trees) :
    ∀ tree ∈ trees, Throughout P tree := by
  apply read_trees_throughout holds _ _ [] [] trees _ _ lexed
  · intro opened member
    cases member
  · intro tree member
    cases member

end ResourceRoutes.Source
