import ResourceRoutes.Proofs.Source.Reading.Paths
set_option autoImplicit false

namespace ResourceRoutes.Source

open ResourceRoutes.Source.Tree (RereadAll)
open ResourceRoutes.Source.TypeExpr

theorem BeginsType.reread {tree read : Tree} (begins : BeginsType tree) (same : Tree.Reread tree read) : BeginsType read := by
  cases begins with
  | word name apart =>
    cases same
    exact .word name apart
  | parens content =>
    cases same
    exact .parens _
  | brackets content =>
    cases same
    exact .brackets _
  | sign c joint listed =>
    cases same
    exact .sign c _ listed

theorem TypeExpr.Ordinary.stream {t : TypeExpr} (own : t.Ordinary) {stream : List Tree} (same : RereadAll t.trees stream) :
    ∃ tree others, stream = tree :: others ∧ BeginsType tree := by
  obtain ⟨tree, rest, printed, begins⟩ := own.begins
  rw [printed] at same
  cases same with
  | cons _ read _ others first held behind => exact ⟨read, others, rfl, begins.reread first⟩

section

variable {tree : Tree} (begins : BeginsType tree) (rest : List Tree)

include begins

theorem BeginsType.no_op (c : Char) (cs : List Char) (other : c ∉ "<&*!:".toList) :
    beginsOp (c :: cs) (tree :: rest) = false := by
  rw [Bool.eq_false_iff]
  intro seen
  obtain ⟨joint, others, same⟩ := begins_op_head c cs _ seen
  cases same
  cases begins with
  | sign _ _ listed => exact other listed

theorem BeginsType.no_lifetime : atLifetime (tree :: rest) = false := by
  cases begins <;> rfl

theorem BeginsType.no_braces : atGroup .braces (tree :: rest) = false := by
  cases begins <;> rfl

theorem BeginsType.no_word (word : String) (other : word.toList ∈ wordsBefore) : atWord word (tree :: rest) = false := by
  cases begins with
  | word name apart =>
    apply beq_eq_false_iff_ne.mpr
    rintro rfl
    exact apart other
  | _ => rfl

theorem BeginsType.no_literal : atLiteral (tree :: rest) = false := by
  cases begins with
  | word name apart =>
    have no_true : (name == "true".toList) = false := beq_eq_false_iff_ne.mpr (by rintro rfl; exact apart (by decide))
    have no_false : (name == "false".toList) = false := beq_eq_false_iff_ne.mpr (by rintro rfl; exact apart (by decide))
    rw [atLiteral, no_true, no_false]
    rfl
  | sign c joint listed =>
    unfold atLiteral
    split
    · rename_i same
      cases same
    · rename_i same
      cases same
    · rename_i same
      cases same
      exact absurd listed (by decide)
    · rfl
  | _ => rfl

end

def TypeExpr.ReadAgain (t : TypeExpr) : Prop :=
  ∀ fuel plus stream rest, 16 * Tree.sizeOfAll t.trees + 10 ≤ fuel → RereadAll t.trees stream → Ends plus rest →
    (plus = false → t.Single) → Parser.typeExpr (fuel + 2) plus (stream ++ rest) = some (t, rest)

theorem TypeExpr.ReadAgain.run {t : TypeExpr} (again : t.ReadAgain) {fuel : Nat} {plus : Bool} {stream rest : List Tree}
    (room : 16 * Tree.sizeOfAll t.trees + 12 ≤ fuel) (same : RereadAll t.trees stream) (ends : Ends plus rest)
    (single : plus = false → t.Single) : Parser.typeExpr fuel plus (stream ++ rest) = some (t, rest) := by
  have left := again (fuel - 2) plus stream rest (by omega) same ends single
  have total : fuel - 2 + 2 = fuel := by omega
  rwa [total] at left

theorem TypeExpr.ReadAgain.run_plus {t : TypeExpr} (again : t.ReadAgain) (fuel : Nat) {stream rest : List Tree}
    (room : 16 * Tree.sizeOfAll t.trees + 12 ≤ fuel) (same : RereadAll t.trees stream) (ends : Ends true rest) :
    Parser.typeExpr fuel true (stream ++ rest) = some (t, rest) := again.run room same ends (by nofun)

namespace Parser

theorem type_at_word (fuel : Nat) (plus : Bool) (name : List Char) (own : PathWord name) (rest : List Tree) :
    typeExpr (fuel + 2) plus (.ident name :: rest) = pathType (fuel + 1) plus [] (.ident name :: rest) := by
  have no_binder : atWord "for" (.ident name :: rest) = false := own.begins.no_word rest "for" (by decide)
  have no_function : atAnyWord ["fn", "unsafe", "extern"] (.ident name :: rest) = false := by
    apply any_word_absent
    have each : ∀ word ∈ ["fn", "unsafe", "extern"], word.toList ∈ keywords ∧ word.toList ∉ pathWords := by decide
    exact fun word member => own.apart _ (each word member).1 (each word member).2
  have path_first : (atIdent (.ident name :: rest) || startsPathWord (.ident name :: rest) ||
      atOp "::" (.ident name :: rest)) = true := by
    cases own with
    | inl free => rw [at_ident_free name free rest, Bool.true_or, Bool.true_or]
    | inr listed =>
      obtain ⟨word, member, rfl⟩ := List.mem_map.mp listed
      have path_word : startsPathWord (.ident word.toList :: rest) = true :=
        List.any_eq_true.mpr ⟨word, member, beq_self_eq_true _⟩
      rw [path_word, Bool.or_true, Bool.true_or]
  refine (run_bind (binder_absent fuel _ no_binder)).trans ?_
  change (if atAnyWord ["fn", "unsafe", "extern"] (.ident name :: rest) = true then _
    else if (atIdent (.ident name :: rest) || startsPathWord (.ident name :: rest) ||
      atOp "::" (.ident name :: rest)) = true then _ else _ : Parser TypeExpr) _ = _
  rw [no_function, path_first]
  rfl

theorem path_type_again (isGlobal : Bool) (segments : List Segment) (present : segments ≠ [])
    (each : ∀ segment ∈ segments, segment.ReadAgain) (fuel : Nat) (plus : Bool) (stream rest : List Tree)
    (room : 16 * Tree.sizeOfAll (TypeExpr.path isGlobal segments).trees + 9 ≤ fuel)
    (same : RereadAll (TypeExpr.path isGlobal segments).trees stream) (ends : Ends plus rest) :
    pathType (fuel + 1) plus [] (stream ++ rest) = some (.path isGlobal segments, rest) := by
  have run_path := path_again isGlobal segments present each fuel stream rest room same ends.closed
  have no_macro : (fun trees => atOp "!" trees && !atOp "!=" trees) rest = false := by
    have no_mark : atOp "!" rest = false := ends.no_op '!' [] (by decide)
    simp only [no_mark, Bool.false_and]
  refine (run_bind run_path).trans ?_
  refine (run_bind (sees_run _ rest false no_macro)).trans ?_
  refine (run_bind (sees_run (atOp "+") rest _ rfl)).trans ?_
  change (if (plus && atOp "+" rest) = true then _ else pure (TypeExpr.path isGlobal segments) : Parser TypeExpr) rest = _
  rw [ends.no_bounds]
  rfl

theorem path_read_again (isGlobal : Bool) (segments : List Segment) (present : segments ≠ [])
    (ordinary : ∀ segment ∈ segments, segment.Ordinary) (each : ∀ segment ∈ segments, segment.ReadAgain) :
    (TypeExpr.path isGlobal segments).ReadAgain := by
  intro fuel plus stream rest room same ends _
  have run_path := path_type_again isGlobal segments present each fuel plus stream rest (by omega) same ends
  obtain ⟨sign, named, rfl, same_sign, same_named⟩ := same.append
  cases isGlobal with
  | true =>
    obtain ⟨joint, none, rfl, same_none⟩ := same_sign.of_pair (by decide)
    cases same_none
    exact run_path
  | false =>
    cases same_sign
    cases segments with
    | nil => exact absurd rfl present
    | cons first others =>
      obtain ⟨name, behind, named_first, own⟩ := (ordinary first (List.mem_cons_self ..)).named
      rw [path_printed, named_first] at same_named
      obtain ⟨more, rfl, -⟩ := same_named.of_ident
      exact (type_at_word fuel plus name own (more ++ rest)).trans run_path

def qualifiedEnd (fuel : Nat) (self : TypeExpr) (named : Bool × List Segment) : Parser TypeExpr := do
  op ">"
  op "::"
  let first ← segment fuel false
  return .qualified self named.1 named.2 (first :: (← pathRest fuel false false))

theorem qualified_end_again (self : TypeExpr) (isGlobal : Bool) (traitPath : List Segment) (first : Segment)
    (others : List Segment) (again : first.ReadAgain) (each : ∀ segment ∈ others, segment.ReadAgain) (fuel : Nat)
    (stream rest : List Tree) (room : 16 * Tree.sizeOfAll (treesOfPath (first :: others)) + 8 ≤ fuel) (joint joint' : Bool)
    (same : RereadAll (treesOfPath (first :: others)) stream) (closed : Closed rest) :
    qualifiedEnd fuel self (isGlobal, traitPath)
        (.punct '>' joint :: .punct ':' true :: .punct ':' joint' :: (stream ++ rest)) =
      some (.qualified self isGlobal traitPath (first :: others), rest) := by
  rw [path_printed] at same room
  obtain ⟨own, more, rfl, same_own, same_more⟩ := same.append
  rw [size_all_append] at room
  have run_own := again fuel own (more ++ rest) (by omega) same_own (more_segments_end others more rest same_more closed)
  have run_more := path_rest_again false others each fuel more rest (by omega) same_more closed
  rw [List.append_assoc]
  change (segment fuel false >>= fun first => pathRest fuel false false >>= fun others =>
    pure (TypeExpr.qualified self isGlobal traitPath (first :: others))) (own ++ (more ++ rest)) = _
  refine (run_bind run_own).trans ?_
  exact run_bind run_more

def traitTrees (isGlobal : Bool) (traitPath : List Segment) : List Tree :=
  if traitPath.isEmpty then [] else .word "as" :: separator isGlobal ++ treesOfPath traitPath

theorem qualified_trait_again (self t : TypeExpr) (isGlobal : Bool) (traitPath : List Segment)
    (unnamed : traitPath = [] → isGlobal = false) (each : ∀ segment ∈ traitPath, segment.ReadAgain) (fuel : Nat)
    (stream left rest : List Tree) (room : 16 * Tree.sizeOfAll (traitTrees isGlobal traitPath) + 9 ≤ fuel)
    (same : RereadAll (traitTrees isGlobal traitPath) stream) (closed : Closed left) (unsaid : atWord "as" left = false)
    (run_end : qualifiedEnd fuel self (isGlobal, traitPath) left = some (t, rest)) :
    (do
      let named ← if ← wordIf "as" then path fuel false else pure (false, [])
      qualifiedEnd fuel self named) (stream ++ left) = some (t, rest) := by
  cases traitPath with
  | nil =>
    cases same
    cases unnamed rfl
    exact (run_bind (word_if_absent "as" left unsaid)).trans run_end
  | cons segment traitPath =>
    have said : RereadAll (.word "as" :: (separator isGlobal ++ treesOfPath (segment :: traitPath))) stream := same
    obtain ⟨named, rfl, same_named⟩ := said.of_ident
    have size : Tree.sizeOfAll (traitTrees isGlobal (segment :: traitPath)) =
        1 + Tree.sizeOfAll (separator isGlobal ++ treesOfPath (segment :: traitPath)) := rfl
    have run_path := path_again isGlobal (segment :: traitPath) (List.cons_ne_nil _ _) each fuel named left (by omega)
      same_named closed
    change (path fuel false >>= fun named => qualifiedEnd fuel self named) (named ++ left) = _
    exact (run_bind run_path).trans run_end

theorem trait_ends (isGlobal : Bool) (traitPath : List Segment) (stream left : List Tree) (joint : Bool)
    (same : RereadAll (traitTrees isGlobal traitPath) stream) : Ends true (stream ++ .punct '>' joint :: left) := by
  intro tree first
  cases traitPath with
  | nil =>
    cases same
    cases first
    exact .sign '>' joint (by decide)
  | cons segment traitPath =>
    obtain ⟨behind, rfl, -⟩ := RereadAll.of_ident same
    cases first
    exact .as

theorem qualified_again (self : TypeExpr) (isGlobal : Bool) (traitPath rest : List Segment) (again : self.ReadAgain)
    (unnamed : traitPath = [] → isGlobal = false) (eachNamed : ∀ segment ∈ traitPath, segment.ReadAgain)
    (present : rest ≠ []) (each : ∀ segment ∈ rest, segment.ReadAgain) :
    (TypeExpr.qualified self isGlobal traitPath rest).ReadAgain := by
  intro fuel plus stream after room same ends _
  cases rest with
  | nil => exact absurd rfl present
  | cons first others =>
    obtain ⟨own_again, others_again⟩ := List.forall_mem_cons.mp each
    have signed : RereadAll (.punct '<' false :: (self.trees ++ traitTrees isGlobal traitPath ++ [.punct '>' false] ++
        [.punct ':' true, .punct ':' false] ++ treesOfPath (first :: others))) stream := same
    have size : Tree.sizeOfAll (TypeExpr.qualified self isGlobal traitPath (first :: others)).trees =
        1 + Tree.sizeOfAll (self.trees ++ traitTrees isGlobal traitPath ++ [.punct '>' false] ++
          [.punct ':' true, .punct ':' false] ++ treesOfPath (first :: others)) := rfl
    simp only [size_all_append, Tree.sizeOfAll, Tree.size] at size
    obtain ⟨joint, more, rfl, same_more⟩ := signed.of_sign
    obtain ⟨front, last, rfl, same_front, same_last⟩ := same_more.append
    obtain ⟨front, colons, rfl, same_front, same_colons⟩ := same_front.append
    obtain ⟨front, closing, rfl, same_front, same_closing⟩ := same_front.append
    obtain ⟨inner, named, rfl, same_inner, same_named⟩ := same_front.append
    obtain ⟨joint_close, none_close, rfl, same_none_close⟩ := same_closing.of_sign
    obtain ⟨joint_colon, none_colon, rfl, same_none_colon⟩ := same_colons.of_pair (by decide)
    cases same_none_close
    cases same_none_colon
    have run_end := qualified_end_again self isGlobal traitPath first others own_again others_again fuel last after
      (by omega) joint_close joint_colon same_last ends.closed
    have run_trait := qualified_trait_again self _ isGlobal traitPath unnamed eachNamed fuel named _ after (by omega)
      same_named ⟨rfl, rfl⟩ rfl run_end
    have run_self : typeExpr fuel true (inner ++ (named ++ (.punct '>' joint_close :: .punct ':' true ::
        .punct ':' joint_colon :: (last ++ after)))) = some (self, named ++ (.punct '>' joint_close :: .punct ':' true ::
          .punct ':' joint_colon :: (last ++ after))) :=
      again.run_plus _ (by omega) same_inner (trait_ends isGlobal traitPath named _ joint_close same_named)
    have stream_again : .punct '<' joint :: (inner ++ named ++ [.punct '>' joint_close] ++
        [.punct ':' true, .punct ':' joint_colon] ++ last) ++ after =
          .punct '<' joint :: (inner ++ (named ++ (.punct '>' joint_close :: .punct ':' true ::
            .punct ':' joint_colon :: (last ++ after)))) := by simp
    rw [stream_again]
    change (typeExpr fuel true >>= fun self => do
      let named ← if ← wordIf "as" then path fuel false else pure (false, [])
      qualifiedEnd fuel self named) (inner ++ (named ++ (.punct '>' joint_close :: .punct ':' true ::
        .punct ':' joint_colon :: (last ++ after)))) = _
    exact (run_bind run_self).trans run_trait

theorem reference_again (lifetime : Option (List Char)) (mutable : Bool) (referent : TypeExpr)
    (ordinary : referent.Ordinary) (single : referent.Single) (again : referent.ReadAgain) :
    (TypeExpr.reference lifetime mutable referent).ReadAgain := by
  intro fuel plus stream rest room same ends _
  have signed : RereadAll (.punct '&' false :: (lifetime.toList.map Tree.lifetime ++
      (if mutable then [.word "mut"] else []) ++ referent.trees)) stream := same
  obtain ⟨joint, more, rfl, same_more⟩ := signed.of_sign
  obtain ⟨front, inner, rfl, same_front, same_inner⟩ := same_more.append
  obtain ⟨named, changed, rfl, same_named, same_changed⟩ := same_front.append
  have smaller : Tree.sizeOfAll (TypeExpr.reference lifetime mutable referent).trees =
      1 + Tree.sizeOfAll (lifetime.toList.map Tree.lifetime ++ (if mutable then [.word "mut"] else []) ++ referent.trees) :=
    rfl
  rw [size_all_append] at smaller
  have run_referent : typeExpr (fuel + 1) false (inner ++ rest) = some (referent, rest) :=
    again.run (by omega) same_inner ends.weaken fun _ => single
  obtain ⟨tree, others, rfl, begins⟩ := ordinary.stream same_inner
  have run_mutable : wordIf "mut" (changed ++ (tree :: others ++ rest)) = some (mutable, tree :: others ++ rest) := by
    cases mutable with
    | true =>
      obtain ⟨none, rfl, same_none⟩ := same_changed.of_ident
      cases same_none
      rfl
    | false =>
      cases same_changed
      exact word_if_absent "mut" _ (begins.no_word (others ++ rest) "mut" (by decide))
  have run_lifetime : lifetimeIf (named ++ (changed ++ (tree :: others ++ rest))) =
      some (lifetime, changed ++ (tree :: others ++ rest)) := by
    cases lifetime with
    | some name =>
      obtain ⟨none, rfl, same_none⟩ := same_named.of_lifetime
      cases same_none
      rfl
    | none =>
      cases same_named
      have absent : atLifetime (changed ++ (tree :: others ++ rest)) = false := by
        cases mutable with
        | true =>
          obtain ⟨none, rfl, same_none⟩ := same_changed.of_ident
          rfl
        | false =>
          cases same_changed
          exact begins.no_lifetime (others ++ rest)
      exact run_bind (sees_run atLifetime _ false absent)
  rw [List.cons_append, List.append_assoc, List.append_assoc]
  change (lifetimeIf >>= fun lifetime => wordIf "mut" >>= fun mutable => typeExpr (fuel + 1) false >>= fun referent =>
    pure (TypeExpr.reference lifetime mutable referent)) (named ++ (changed ++ (tree :: others ++ rest))) = _
  refine (run_bind run_lifetime).trans ?_
  refine (run_bind run_mutable).trans ?_
  exact run_bind run_referent

theorem pointer_again (mutable : Bool) (target : TypeExpr) (single : target.Single) (again : target.ReadAgain) :
    (TypeExpr.pointer mutable target).ReadAgain := by
  intro fuel plus stream rest room same ends _
  have signed : RereadAll (.punct '*' false :: .word (if mutable then "mut" else "const") :: target.trees) stream := same
  obtain ⟨joint, more, rfl, same_more⟩ := signed.of_sign
  obtain ⟨inner, rfl, same_inner⟩ := same_more.of_ident
  have smaller : Tree.sizeOfAll (TypeExpr.pointer mutable target).trees = 1 + (1 + Tree.sizeOfAll target.trees) := rfl
  have run_target : typeExpr (fuel + 1) false (inner ++ rest) = some (target, rest) :=
    again.run (by omega) same_inner ends.weaken fun _ => single
  cases mutable with
  | true =>
    change (typeExpr (fuel + 1) false >>= fun target => pure (TypeExpr.pointer true target)) (inner ++ rest) = _
    exact run_bind run_target
  | false =>
    change (typeExpr (fuel + 1) false >>= fun target => pure (TypeExpr.pointer false target)) (inner ++ rest) = _
    exact run_bind run_target

theorem types_again (types : List TypeExpr) (trailing : Bool) (alone : types = [] → trailing = true)
    (ordinary : ∀ t ∈ types, t.Ordinary) (each : ∀ t ∈ types, t.ReadAgain) (fuel : Nat) (stream : List Tree)
    (room : 16 * Tree.sizeOfAll (commaTrees TypeExpr.trees types trailing) + 12 ≤ fuel)
    (same : RereadAll (commaTrees TypeExpr.trees types trailing) stream) :
    listed (typeExpr fuel true) (stream.length + 1) stream = some ((types, trailing), []) := by
  have present (t : TypeExpr) (member : t ∈ types) : t.trees ≠ [] := by
    obtain ⟨tree, rest, printed, -⟩ := (ordinary t member).begins
    rw [printed]
    exact List.cons_ne_nil tree rest
  have enough := length_of_list TypeExpr.trees types trailing present
  rw [← same.length] at enough
  apply run_listed types trailing (stream.length + 1) stream (by omega) alone present _ same
  intro t member own rest same_own listed
  have smaller := size_in_list TypeExpr.trees types trailing t member
  exact (each t member).run_plus _ (by omega) same_own (.of_listed listed)

theorem nothing_ends (plus : Bool) : Ends plus [] := nofun

theorem paren_again (inner : TypeExpr) (ordinary : inner.Ordinary) (again : inner.ReadAgain) :
    (TypeExpr.paren inner).ReadAgain := by
  intro fuel plus stream rest room same ends _
  have size : Tree.sizeOfAll (TypeExpr.paren inner).trees = 1 + Tree.sizeOfAll inner.trees := rfl
  obtain ⟨content, none, rfl, same_content, same_none⟩ := RereadAll.of_group same
  cases same_none
  obtain ⟨tree, others, rfl, begins⟩ := ordinary.stream same_content
  cases fuel with
  | zero => omega
  | succ fuel =>
    have run_inner := again.run_plus fuel (by omega) same_content (nothing_ends true)
    rw [List.append_nil] at run_inner
    have run_first : firstElement (fuel + 1) (tree :: others) = some ((inner, none), []) := run_bind run_inner
    have no_lifetime := begins.no_lifetime others
    have no_mark : atOp "?" (tree :: others) = false := begins.no_op others '?' [] (by decide)
    change (if atLifetime (tree :: others) = true then _ else if atOp "?" (tree :: others) = true then _
      else _ : Parser TypeExpr) rest = _
    rw [no_lifetime, no_mark]
    refine (run_bind (run_all run_first rest)).trans ?_
    refine (run_bind (sees_run (atOp "+") rest _ rfl)).trans ?_
    rw [ends.no_bounds]
    rfl

theorem unit_again : (TypeExpr.tuple [] false).ReadAgain := by
  intro fuel plus stream rest room same ends _
  obtain ⟨content, none, rfl, same_content, same_none⟩ := RereadAll.of_group same
  cases same_none
  cases same_content
  rfl

theorem tuple_again (first : TypeExpr) (others : List TypeExpr) (trailing : Bool) (alone : others = [] → trailing = true)
    (ordinary : ∀ t ∈ first :: others, t.Ordinary) (each : ∀ t ∈ first :: others, t.ReadAgain) :
    (TypeExpr.tuple (first :: others) trailing).ReadAgain := by
  intro fuel plus stream rest room same ends _
  have printed : (TypeExpr.tuple (first :: others) trailing).trees =
      [.group .parens (commaTrees TypeExpr.trees (first :: others) trailing)] := by
    rw [TypeExpr.trees, types_with_commas]
  have more : (!others.isEmpty || trailing) = true := by
    cases others with
    | nil => rw [alone rfl, Bool.or_true]
    | cons second others => rfl
  rw [printed] at same room
  have size : Tree.sizeOfAll [Tree.group .parens (commaTrees TypeExpr.trees (first :: others) trailing)] =
      1 + (Tree.sizeOfAll first.trees + (1 + Tree.sizeOfAll (commaTrees TypeExpr.trees others trailing))) := by
    simp only [commaTrees, more]
    simp [Tree.sizeOfAll, Tree.size, TypeExpr.comma, Tree.op, Tree.operatorOf]
  obtain ⟨content, none, rfl, same_content, same_none⟩ := RereadAll.of_group same
  cases same_none
  obtain ⟨own, behind, rfl, same_own, same_behind⟩ := RereadAll.append same_content
  rw [more] at same_behind
  obtain ⟨joint, elements, rfl, same_elements⟩ := RereadAll.of_sign same_behind
  obtain ⟨tree, left, rfl, begins⟩ := (ordinary first (List.mem_cons_self ..)).stream same_own
  cases fuel with
  | zero => omega
  | succ fuel =>
    obtain ⟨again, again_others⟩ := List.forall_mem_cons.mp each
    have run_own : typeExpr fuel true (tree :: left ++ .punct ',' joint :: elements) =
        some (first, .punct ',' joint :: elements) := by
      apply again.run_plus _ (by omega) same_own
      intro tree first
      cases first
      exact .sign ',' joint (by decide)
    have run_elements := types_again others trailing alone (fun t member => ordinary t (List.mem_cons_of_mem _ member))
      again_others fuel elements (by omega) same_elements
    have run_first : firstElement (fuel + 1) (tree :: left ++ .punct ',' joint :: elements) =
        some ((first, some (others, trailing)), []) := by
      refine (run_bind run_own).trans ?_
      change (listed (typeExpr fuel true) (elements.length + 1) >>= fun found => pure (first, some found)) elements = _
      exact run_bind run_elements
    have no_lifetime := begins.no_lifetime (left ++ .punct ',' joint :: elements)
    have no_mark : atOp "?" (tree :: (left ++ .punct ',' joint :: elements)) = false :=
      begins.no_op (left ++ .punct ',' joint :: elements) '?' [] (by decide)
    change (if atLifetime (tree :: (left ++ .punct ',' joint :: elements)) = true then _
      else if atOp "?" (tree :: (left ++ .punct ',' joint :: elements)) = true then _ else _ : Parser TypeExpr) rest = _
    rw [no_lifetime, no_mark]
    exact run_bind (run_all run_first rest)

theorem slice_again (element : TypeExpr) (again : element.ReadAgain) : (TypeExpr.slice element).ReadAgain := by
  intro fuel plus stream rest room same ends _
  have size : Tree.sizeOfAll (TypeExpr.slice element).trees = 1 + Tree.sizeOfAll element.trees := rfl
  obtain ⟨content, none, rfl, same_content, same_none⟩ := RereadAll.of_group same
  cases same_none
  have run_element := again.run_plus fuel (by omega) same_content (nothing_ends true)
  rw [List.append_nil] at run_element
  have run_content : arrayOrSlice (fuel + 1) content = some (.slice element, []) := run_bind run_element
  exact run_in_group .brackets run_content rest

theorem length_again (length : Tree) (single : SingleLength length) (stream : List Tree) (same : RereadAll [length] stream) :
    stream = [length] ∧ arrayLength stream = some ([length], []) := by
  cases single with
  | ident name =>
    obtain ⟨none, rfl, same_none⟩ := same.of_ident
    cases same_none
    exact ⟨rfl, rfl⟩
  | literal text kept =>
    obtain ⟨none, rfl, same_none⟩ := same.of_kept kept
    cases same_none
    exact ⟨rfl, rfl⟩

theorem array_again (element : TypeExpr) (length : Tree) (single : SingleLength length) (again : element.ReadAgain) :
    (TypeExpr.array element [length]).ReadAgain := by
  intro fuel plus stream rest room same ends _
  have printed : (TypeExpr.array element [length]).trees = [.group .brackets (element.trees ++ [.punct ';' false, length])] := by
    simp [TypeExpr.trees, Tree.op, Tree.operatorOf]
  rw [printed] at room same
  have size : Tree.sizeOfAll [Tree.group .brackets (element.trees ++ [.punct ';' false, length])] =
      1 + Tree.sizeOfAll (element.trees ++ [.punct ';' false, length]) := rfl
  rw [size_all_append] at size
  obtain ⟨content, none, rfl, same_content, same_none⟩ := RereadAll.of_group same
  cases same_none
  obtain ⟨own, behind, rfl, same_own, same_behind⟩ := same_content.append
  obtain ⟨joint, left, rfl, same_left⟩ := same_behind.of_sign
  obtain ⟨rfl, run_length⟩ := length_again length single left same_left
  have run_element : typeExpr fuel true (own ++ [.punct ';' joint, length]) = some (element, [.punct ';' joint, length]) := by
    apply again.run_plus _ (by omega) same_own
    intro tree first
    cases first
    exact .sign ';' joint (by decide)
  have run_content : arrayOrSlice (fuel + 1) (own ++ [.punct ';' joint, length]) = some (.array element [length], []) := by
    refine (run_bind run_element).trans ?_
    change (arrayLength >>= fun length => pure (TypeExpr.array element length)) [length] = _
    exact run_bind run_length
  exact run_in_group .brackets run_content rest

theorem never_again : (TypeExpr.other (Tree.op "!")).ReadAgain := by
  intro fuel plus stream rest room same ends _
  obtain ⟨joint, others, rfl, same_others⟩ := RereadAll.of_sign same
  cases same_others
  rfl

theorem inferred_again : (TypeExpr.other [.word "_"]).ReadAgain := by
  intro fuel plus stream rest room same ends _
  obtain ⟨others, rfl, same_others⟩ := RereadAll.of_ident same
  cases same_others
  rfl

end Parser

end ResourceRoutes.Source
