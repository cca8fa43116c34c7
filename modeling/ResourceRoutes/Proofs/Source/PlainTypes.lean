import ResourceRoutes.Proofs.Source.PlainParts
set_option autoImplicit false

namespace ResourceRoutes.Source

open ResourceRoutes.Source.TypeExpr

namespace Parser

theorem with_arguments_plain (segments : List Segment) (arguments : Arguments) (each : ∀ segment ∈ segments, segment.Plain)
    (plain : arguments.Plain) : ∀ segment ∈ withArguments segments arguments, segment.Plain := by
  unfold withArguments
  split
  · rename_i name own last
    have plain_last : (Segment.mk name own).Plain := each _ (List.mem_of_getLast? last)
    have plain_name : (Tree.ident name).Plain := plain_last _ (List.mem_cons_self ..)
    rw [List.forall_mem_append]
    refine ⟨fun segment member => each segment (List.dropLast_subset segments member), ?_⟩
    rw [List.forall_mem_singleton]
    exact (plain_cons_iff _ _).mpr ⟨plain_name, plain⟩
  · exact List.forall_mem_nil _

theorem plain_op_if {sign : String} (present : Bool) (plain : PlainTrees (Tree.op sign)) :
    PlainTrees (if present then Tree.op sign else []) := by
  cases present with
  | true => exact plain
  | false => exact plain_nil

theorem trait_end_plain (inParens relaxed isGlobal : Bool) (binder marker inner : List Tree) (segments : List Segment)
    (plain_binder : PlainTrees binder) (plain_marker : PlainTrees marker) (plain_inner : PlainTrees inner)
    (each : ∀ segment ∈ segments, segment.Plain) : Gives Bound.Plain (do
      if relaxed && !(binder ++ inner).isEmpty then fail
      let leading := (if relaxed then Tree.op "?" else []) ++ binder ++ inner
      if marker.isEmpty then return .trait inParens leading isGlobal segments
      else
        let trees := binder ++ marker ++ (if relaxed then Tree.op "?" else [])
          ++ TypeExpr.separator isGlobal ++ TypeExpr.treesOfPath segments
        return .other (if inParens then [.group .parens trees] else trees)) := by
  have plain_mark := plain_op_if relaxed (plain_op "?" (by decide))
  have leading : PlainTrees ((if relaxed = true then Tree.op "?" else []) ++ binder ++ inner) := by
    simp only [plain_append_iff]
    exact ⟨⟨plain_mark, plain_binder⟩, plain_inner⟩
  have trees : PlainTrees (binder ++ marker ++ (if relaxed = true then Tree.op "?" else []) ++ separator isGlobal ++
      treesOfPath segments) := by
    simp only [plain_append_iff]
    exact ⟨⟨⟨⟨plain_binder, plain_marker⟩, plain_mark⟩, plain_separator isGlobal⟩, plain_path segments each⟩
  have unchecked : Gives Bound.Plain (if marker.isEmpty then
        pure (.trait inParens ((if relaxed then Tree.op "?" else []) ++ binder ++ inner) isGlobal segments)
      else
        pure (.other (if inParens then [.group .parens (binder ++ marker ++ (if relaxed then Tree.op "?" else []) ++
          separator isGlobal ++ treesOfPath segments)] else
            binder ++ marker ++ (if relaxed then Tree.op "?" else []) ++ separator isGlobal ++ treesOfPath segments))) := by
    apply yields_ite
    · exact yields_pure _ _ (plain_trait inParens _ isGlobal segments leading each)
    · apply yields_pure
      cases inParens with
      | true => exact (plain_cons_iff _ _).mpr ⟨trees.group .parens, plain_nil⟩
      | false => exact trees
  apply yields_ite
  · exact yields_after fun _ => unchecked
  · exact unchecked

theorem optional_part_plain {α β : Type} {Q : β → Prop} {sign : String} {p : Parser α} {next : List Tree → Parser β}
    [∀ start, StaysIn start p] (trees : α → List Tree) (plain_sign : PlainTrees (Tree.op sign))
    (part : Gives (fun a => PlainTrees (trees a)) p) (behind : ∀ found, PlainTrees found → Gives Q (next found)) :
    Gives Q (do
      if ← opIf sign then
        let found ← p
        pure (Tree.op sign ++ trees found) >>= next
      else pure [] >>= next) := by
  apply yields_after
  intro present
  apply yields_ite
  · apply part.andThen
    intro found plain
    exact (yields_pure _ _ ((plain_append_iff _ _).mpr ⟨plain_sign, plain⟩)).andThen behind
  · exact (yields_pure _ _ plain_nil).andThen behind

structure TypesPlain (fuel : Nat) : Prop where
  typeExpr : ∀ plus, Gives TypeExpr.Plain (typeExpr fuel plus)
  parenthesized : ∀ plus, Gives TypeExpr.Plain (parenthesized fuel plus)
  firstElement : Gives (fun found => found.1.Plain ∧ ∀ others ∈ found.2, ∀ t ∈ others.1, TypeExpr.Plain t)
    (firstElement fuel)
  moreBounds : Gives (fun found => ∀ bound ∈ found, Bound.Plain bound) (moreBounds fuel)
  arrayOrSlice : Gives TypeExpr.Plain (arrayOrSlice fuel)
  pathType : ∀ plus binder, PlainTrees binder → Gives TypeExpr.Plain (pathType fuel plus binder)
  qualifiedPath : ∀ inExpr, Gives TypeExpr.Plain (qualifiedPath fuel inExpr)
  path : ∀ inExpr, Gives (fun found => ∀ segment ∈ found.2, Segment.Plain segment) (path fuel inExpr)
  pathRest : ∀ inExpr leaveCalls, Gives (fun found => ∀ segment ∈ found, Segment.Plain segment)
    (pathRest fuel inExpr leaveCalls)
  segment : ∀ inExpr, Gives Segment.Plain (segment fuel inExpr)
  angled : Gives Arguments.Plain (angled fuel)
  argument : Gives Argument.Plain (argument fuel)
  traitObject : ∀ plus isDyn, Gives TypeExpr.Plain (traitObject fuel plus isDyn)
  bounds : ∀ plus captures, Gives (fun found => ∀ bound ∈ found.1, Bound.Plain bound)
    (bounds fuel plus captures)
  bound : ∀ captures, Gives Bound.Plain (bound fuel captures)
  traitBound : ∀ inParens, Gives Bound.Plain (traitBound fuel inParens)
  calledArguments : Gives Arguments.Plain (calledArguments fuel)
  binderIf : Gives PlainTrees (binderIf fuel)
  parameter : Gives PlainTrees (parameter fuel)
  functionType : Gives PlainTrees (functionType fuel)
  functionInputs : ∀ first, Gives PlainTrees (functionInputs fuel first)
  functionInput : ∀ first, Gives PlainTrees (functionInput fuel first)

section

variable {fuel : Nat} (types : TypesPlain fuel)

include types

theorem first_element_plain : Gives (fun found => found.1.Plain ∧
    ∀ others ∈ found.2, ∀ t ∈ others.1, TypeExpr.Plain t) (firstElement (fuel + 1)) := by
  apply (types.typeExpr true).andThen
  intro first plain
  apply yields_after
  intro comma
  apply yields_ite
  · apply (yields_comma_list (types.typeExpr true)).andThen
    intro others each
    apply yields_pure
    refine ⟨plain, ?_⟩
    intro found same
    cases same
    exact each
  · apply yields_pure
    refine ⟨plain, ?_⟩
    intro found same
    cases same

theorem more_bounds_plain : Gives (fun found => ∀ bound ∈ found, Bound.Plain bound) (moreBounds (fuel + 1)) := by
  apply yields_after
  intro more
  apply yields_ite
  · apply (types.bound true).andThen
    intro bound plain
    apply types.moreBounds.andThen
    intro others each
    exact yields_pure _ _ (List.forall_mem_cons.mpr ⟨plain, each⟩)
  · exact yields_pure _ _ (List.forall_mem_nil _)

theorem array_or_slice_plain : Gives TypeExpr.Plain (arrayOrSlice (fuel + 1)) := by
  apply (types.typeExpr true).andThen
  intro element plain
  apply yields_after
  intro more
  apply yields_ite
  · apply array_length_ending.andThen
    intro length ending
    apply yields_pure
    have front : PlainTrees (element.trees ++ Tree.op ";") := (plain_append_iff _ _).mpr ⟨plain, plain_op ";" (by decide)⟩
    obtain ⟨sound, uncommented⟩ := ending_append _ length front ending
    exact (plain_cons_iff _ _).mpr ⟨plain_group .brackets _ sound uncommented, plain_nil⟩
  · exact yields_pure _ _ ((plain_cons_iff _ _).mpr ⟨plain.group .brackets, plain_nil⟩)

theorem parenthesized_plain (plus : Bool) : Gives TypeExpr.Plain (parenthesized (fuel + 1) plus) := by
  have in_parens (content : List Tree) (plain : PlainTrees content) : PlainTrees [.group .parens content] :=
    (plain_cons_iff _ _).mpr ⟨plain.group .parens, plain_nil⟩
  have with_more (first : Bound) (plain : first.Plain) :
      Gives TypeExpr.Plain (do return TypeExpr.traitObject false (first :: (← moreBounds fuel)) false) := by
    apply types.moreBounds.andThen
    intro others each
    exact yields_pure _ _ (plain_trait_object false _ false (List.forall_mem_cons.mpr ⟨plain, each⟩))
  apply (yields_group .parens).andThen
  intro content sound
  apply yields_ite
  · exact yields_pure _ _ (in_parens _ plain_nil)
  apply yields_ite
  · apply (yields_all content sound (types.traitObject true false)).andThen
    intro inner plain
    exact yields_pure _ _ (in_parens _ plain)
  apply yields_ite
  · apply (yields_all content sound (types.traitBound true)).andThen
    intro first plain
    exact with_more first plain
  apply (yields_all content sound types.firstElement).andThen
  intro found held
  obtain ⟨first, others⟩ := found
  obtain ⟨plain, each⟩ := held
  cases others with
  | some others =>
    apply yields_pure
    have all_plain : ∀ t ∈ first :: others.1, t.Plain := List.forall_mem_cons.mpr ⟨plain, each others rfl⟩
    exact (plain_cons_iff _ _).mpr ⟨plain_called (first :: others.1) others.2 all_plain, plain_nil⟩
  | none =>
    apply yields_after
    intro plussed
    apply yields_ite
    · split
      · rename_i isGlobal segments
        exact with_more _ (in_parens _ plain)
      · rename_i inParens leading isGlobal segments
        apply with_more
        rw [plain_lone_bound] at plain
        exact plain_in_parens inParens leading isGlobal segments plain
      · exact with_more _ ((plain_lone_bound _).mp plain)
      · exact yields_pure _ _ (in_parens _ plain)
    · exact yields_pure _ _ (in_parens _ plain)

theorem path_plain (inExpr : Bool) : Gives (fun found => ∀ segment ∈ found.2, Segment.Plain segment)
    (path (fuel + 1) inExpr) := by
  apply yields_after
  intro isGlobal
  apply (types.segment inExpr).andThen
  intro first plain
  apply (types.pathRest inExpr true).andThen
  intro others each
  exact yields_pure _ _ (List.forall_mem_cons.mpr ⟨plain, each⟩)

theorem path_rest_plain (inExpr leaveCalls : Bool) : Gives (fun found => ∀ segment ∈ found, Segment.Plain segment)
    (pathRest (fuel + 1) inExpr leaveCalls) := by
  apply yields_after
  intro more
  apply yields_ite
  · apply yields_after
    intro sign
    apply (types.segment inExpr).andThen
    intro next plain
    apply (types.pathRest inExpr leaveCalls).andThen
    intro others each
    exact yields_pure _ _ (List.forall_mem_cons.mpr ⟨plain, each⟩)
  · exact yields_pure _ _ (List.forall_mem_nil _)

theorem segment_plain (inExpr : Bool) : Gives Segment.Plain (segment (fuel + 1) inExpr) := by
  have named (name : List Char) (plain : (Tree.ident name).Plain) (arguments : Arguments) (plain_arguments : arguments.Plain) :
      (Segment.mk name arguments).Plain := (plain_cons_iff _ _).mpr ⟨plain, plain_arguments⟩
  have with_arguments (name : List Char) (plain : (Tree.ident name).Plain) : Gives Segment.Plain (do
      let trees ← get
      if (!inExpr && atOp "<" trees && !atOp "<=" trees) || (atOp "::" trees && thirdIsAngle trees) then
        return Segment.mk name (← angled fuel)
      else return Segment.mk name .none) := by
    apply yields_after
    intro trees
    apply yields_ite
    · apply types.angled.andThen
      intro arguments plain_arguments
      exact yields_pure _ _ (named name plain arguments plain_arguments)
    · exact yields_pure _ _ (named name plain .none plain_nil)
  apply yields_after
  intro isKeyword
  apply yields_ite
  · apply any_ident_plain.andThen
    intro name plain
    exact yields_pure _ _ (named name plain .none plain_nil)
  apply yields_after
  intro isSelf
  apply yields_ite
  · exact any_ident_plain.andThen with_arguments
  · exact ident_plain.andThen with_arguments

theorem angled_plain : Gives Arguments.Plain (angled (fuel + 1)) := by
  apply yields_after
  intro separated
  apply yields_after
  intro opening
  apply yields_after
  intro enough
  apply (yields_signed types.argument enough).andThen
  intro found each
  apply yields_after
  intro closing
  exact yields_pure _ _ (plain_angled separated found.1 found.2 each)

theorem bound_plain (captures : Bool) : Gives Bound.Plain (bound (fuel + 1) captures) := by
  apply yields_after
  intro isLifetime
  apply yields_ite
  · apply lifetime_plain.andThen
    intro name plain
    exact yields_pure _ _ ((plain_cons_iff _ _).mpr ⟨plain, plain_nil⟩)
  apply yields_after
  intro captured
  apply yields_ite
  · apply yields_ite
    · apply capture_plain.andThen
      intro trees plain
      exact yields_pure _ _ plain
    · exact yields_fail _
  apply yields_after
  intro grouped
  apply yields_ite
  · exact yields_in_group (types.traitBound true)
  · exact types.traitBound false

theorem bounds_plain (plus captures : Bool) : Gives (fun found => ∀ bound ∈ found.1, Bound.Plain bound)
    (bounds (fuel + 1) plus captures) := by
  apply (types.bound captures).andThen
  intro first plain
  have alone (trailing : Bool) : Gives (fun found : List Bound × Bool => ∀ bound ∈ found.1, Bound.Plain bound)
      (pure ([first], trailing)) :=
    yields_pure _ _ (List.forall_mem_cons.mpr ⟨plain, List.forall_mem_nil _⟩)
  have with_more : Gives (fun found => ∀ bound ∈ found.1, Bound.Plain bound) (do
      if ← sees startsBound then
        let others ← bounds fuel plus captures
        return (first :: others.1, others.2)
      else return ([first], true)) := by
    apply yields_after
    intro more
    apply yields_ite
    · apply (types.bounds plus captures).andThen
      intro others each
      exact yields_pure _ _ (List.forall_mem_cons.mpr ⟨plain, each⟩)
    · exact alone true
  apply yields_after
  intro added
  apply yields_ite
  · exact yields_after fun _ => with_more
  · exact alone false

theorem trait_object_plain (plus isDyn : Bool) : Gives TypeExpr.Plain (traitObject (fuel + 1) plus isDyn) := by
  apply (types.bounds plus false).andThen
  intro found each
  apply yields_ite
  · exact yields_pure _ _ (plain_trait_object isDyn found.1 found.2 each)
  · exact yields_fail _

theorem called_arguments_plain : Gives Arguments.Plain (calledArguments (fuel + 1)) := by
  apply (yields_in_group (yields_comma_list (types.typeExpr true))).andThen
  intro found each
  apply yields_after
  intro arrow
  apply yields_ite
  · apply (types.typeExpr false).andThen
    intro output plain
    apply yields_pure
    have arrow_plain := plain_op "->" (by decide)
    exact (plain_cons_iff _ _).mpr ⟨plain_called found.1 found.2 each, (plain_append_iff _ _).mpr ⟨arrow_plain, plain⟩⟩
  · exact yields_pure _ _ ((plain_cons_iff _ _).mpr ⟨plain_called found.1 found.2 each, plain_nil⟩)

theorem binder_plain : Gives PlainTrees (binderIf (fuel + 1)) := by
  apply yields_after
  intro present
  apply yields_ite
  · apply yields_after
    intro opening
    apply yields_after
    intro enough
    apply (signed_plain types.parameter enough (plain_op "," (by decide))).andThen
    intro found plain
    apply yields_after
    intro closing
    apply yields_pure
    simp only [List.cons_append, List.append_assoc, plain_cons_iff, plain_append_iff] at plain ⊢
    exact ⟨plain_word "for" (by decide), plain_op "<" (by decide), plain.1, plain.2, plain_op ">" (by decide)⟩
  · exact yields_pure _ _ plain_nil

theorem argument_plain : Gives Argument.Plain (argument (fuel + 1)) := by
  apply yields_after
  intro trees
  apply yields_ite
  · apply lifetime_plain.andThen
    intro name plain
    exact yields_pure _ _ ((plain_cons_iff _ _).mpr ⟨plain, plain_nil⟩)
  apply yields_ite
  · apply (constant_plain false).andThen
    intro trees plain
    exact yields_pure _ _ plain
  apply (types.typeExpr true).andThen
  intro t plain
  split
  · rename_i name arguments
    have plain_segment : (Segment.mk name arguments).Plain := plain
    apply yields_after
    intro equals
    apply yields_ite
    · have assigned (value : List Tree) (plain_value : PlainTrees value) :
          (Argument.other (treesOfSegment (.mk name arguments) ++ Tree.op "=" ++ value)).Plain := by
        rw [Argument.Plain, treesOfArgument, plain_append_iff, plain_append_iff]
        exact ⟨⟨plain_segment, plain_op "=" (by decide)⟩, plain_value⟩
      apply yields_after
      intro isConstant
      apply yields_ite
      · apply (constant_plain false).andThen
        intro value plain_value
        exact yields_pure _ _ (assigned value plain_value)
      · apply (types.typeExpr true).andThen
        intro value plain_value
        exact yields_pure _ _ (assigned value.trees plain_value)
    apply yields_after
    intro colon
    apply yields_ite
    · apply yields_after
      intro enough
      apply (yields_signed (types.bound false) enough).andThen
      intro found each
      apply yields_pure
      simp only [Argument.Plain, treesOfArgument, plain_append_iff]
      exact ⟨⟨⟨plain_segment, plain_op ":" (by decide)⟩, plain_bounds found.1 each⟩,
        plain_trailing "+" (plain_op "+" (by decide)) found.1 found.2⟩
    · exact yields_pure _ _ plain
  · exact yields_pure _ _ plain

theorem trait_bound_plain (inParens : Bool) : Gives Bound.Plain (traitBound (fuel + 1) inParens) := by
  apply types.binderIf.andThen
  intro binder plain_binder
  apply const_marker_plain.andThen
  intro marker plain_marker
  apply yields_after
  intro relaxed
  have with_inner (inner : List Tree) (plain_inner : PlainTrees inner) : Gives Bound.Plain (do
      let named ← path fuel false
      let segments ←
        if callable? named.2
            && (← sees fun trees => atGroup .parens trees || (atOp "::" trees && thirdIsParens trees)) then do
          let _ ← opIf "::"
          pure (withArguments named.2 (← calledArguments fuel))
        else pure named.2
      if relaxed && !(binder ++ inner).isEmpty then fail
      let leading := (if relaxed then Tree.op "?" else []) ++ binder ++ inner
      if marker.isEmpty then return .trait inParens leading named.1 segments
      else
        let trees := binder ++ marker ++ (if relaxed then Tree.op "?" else [])
          ++ TypeExpr.separator named.1 ++ TypeExpr.treesOfPath segments
        return .other (if inParens then [.group .parens trees] else trees)) := by
    apply (types.path false).andThen
    intro named each
    have ending (segments : List Segment) (each : ∀ segment ∈ segments, segment.Plain) :=
      trait_end_plain inParens relaxed named.1 binder marker inner segments plain_binder plain_marker plain_inner each
    apply yields_after
    intro called
    apply yields_ite
    · apply yields_after
      intro sign
      apply types.calledArguments.andThen
      intro arguments plain_arguments
      exact (yields_pure _ _ (with_arguments_plain named.2 arguments each plain_arguments)).andThen ending
    · exact (yields_pure _ _ each).andThen ending
  apply yields_ite
  · exact types.binderIf.andThen with_inner
  · exact (yields_pure _ _ plain_nil).andThen with_inner

omit types in
theorem lifetime_parameter_plain (attributes : List Tree) (plain_attributes : PlainTrees attributes) :
    Gives PlainTrees (do
      let name ← lifetime
      if ← opIf ":" then
        return attributes ++ .lifetime name :: Tree.op ":" ++ (← lifetimeBounds endsParameter)
      else return attributes ++ [.lifetime name]) := by
  apply lifetime_plain.andThen
  intro name plain
  apply yields_after
  intro colon
  apply yields_ite
  · apply (lifetime_bounds_plain endsParameter).andThen
    intro bounds plain_bounds
    apply yields_pure
    simp only [plain_append_iff, plain_cons_iff]
    exact ⟨⟨plain_attributes, plain, plain_op ":" (by decide)⟩, plain_bounds⟩
  · apply yields_pure
    rw [plain_append_iff, plain_cons_iff]
    exact ⟨plain_attributes, plain, plain_nil⟩

theorem const_parameter_plain (attributes : List Tree) (plain_attributes : PlainTrees attributes) :
    Gives PlainTrees (do
      word "const"
      let name ← ident
      op ":"
      let t ← typeExpr fuel true
      let default ← if ← opIf "=" then do pure (Tree.op "=" ++ (← constant true)) else pure []
      return attributes ++ .word "const" :: .ident name :: Tree.op ":" ++ t.trees ++ default) := by
  apply yields_after
  intro keyword
  apply ident_plain.andThen
  intro name plain
  apply yields_after
  intro colon
  apply (types.typeExpr true).andThen
  intro t plain_type
  apply optional_part_plain (fun trees => trees) (plain_op "=" (by decide)) (constant_plain true)
  intro default plain_default
  apply yields_pure
  simp only [List.cons_append, List.append_assoc, plain_append_iff, plain_cons_iff]
  exact ⟨plain_attributes, plain_word "const" (by decide), plain, plain_op ":" (by decide), plain_type, plain_default⟩

theorem type_parameter_plain (attributes : List Tree) (plain_attributes : PlainTrees attributes) :
    Gives PlainTrees (do
      let name ← ident
      let bounds ←
        if ← opIf ":" then do
          let (bounds, trailing) ← signed "+" (fun trees => endsParameter trees || atOp "=" trees)
            (bound fuel false) (← Parser.fuel)
          pure (Tree.op ":" ++ TypeExpr.treesOfBounds bounds ++ trailingTrees "+" bounds trailing)
        else pure []
      let default ← if ← opIf "=" then do pure (Tree.op "=" ++ (← typeExpr fuel true).trees) else pure []
      return attributes ++ .ident name :: bounds ++ default) := by
  apply ident_plain.andThen
  intro name plain
  have bounded (bounds : List Tree) (plain_bounds : PlainTrees bounds) : Gives PlainTrees (do
      let default ← if ← opIf "=" then do pure (Tree.op "=" ++ (← typeExpr fuel true).trees) else pure []
      return attributes ++ .ident name :: bounds ++ default) := by
    apply optional_part_plain TypeExpr.trees (plain_op "=" (by decide)) (types.typeExpr true)
    intro default plain_default
    apply yields_pure
    simp only [List.cons_append, List.append_assoc, plain_append_iff, plain_cons_iff]
    exact ⟨plain_attributes, plain, plain_bounds, plain_default⟩
  apply yields_after
  intro colon
  apply yields_ite
  · apply yields_after
    intro enough
    apply (yields_signed (types.bound false) enough).andThen
    intro found each
    have plain_found : PlainTrees (Tree.op ":" ++ treesOfBounds found.1 ++ trailingTrees "+" found.1 found.2) := by
      simp only [plain_append_iff]
      exact ⟨⟨plain_op ":" (by decide), plain_bounds found.1 each⟩,
        plain_trailing "+" (plain_op "+" (by decide)) found.1 found.2⟩
    exact (yields_pure _ _ plain_found).andThen bounded
  · exact (yields_pure _ _ plain_nil).andThen bounded

theorem parameter_plain : Gives PlainTrees (parameter (fuel + 1)) := by
  apply outer_attributes_plain.andThen
  intro attributes plain_attributes
  apply yields_after
  intro trees
  apply yields_ite
  · exact lifetime_parameter_plain attributes plain_attributes
  apply yields_ite
  · exact const_parameter_plain types attributes plain_attributes
  · exact type_parameter_plain types attributes plain_attributes

theorem function_type_plain : Gives PlainTrees (functionType (fuel + 1)) := by
  apply (word_trees_plain "unsafe" (by decide)).andThen
  intro safety plain_safety
  apply convention_plain.andThen
  intro convention plain_convention
  apply yields_after
  intro keyword
  apply (yields_in_group (types.functionInputs true)).andThen
  intro inputs plain_inputs
  apply optional_part_plain TypeExpr.trees (plain_op "->" (by decide)) (types.typeExpr false)
  intro output plain_output
  apply yields_pure
  simp only [List.append_assoc, plain_append_iff, plain_cons_iff]
  exact ⟨plain_safety, plain_convention, plain_word "fn" (by decide), plain_inputs.group .parens, plain_output⟩

theorem function_inputs_plain (first : Bool) : Gives PlainTrees (functionInputs (fuel + 1) first) := by
  apply yields_after
  intro ended
  apply yields_ite
  · exact yields_pure _ _ plain_nil
  apply outer_attributes_plain.andThen
  intro attributes plain_attributes
  have variadic (name : List Tree) (plain_name : PlainTrees name) : Gives PlainTrees (do
      op "..."
      let comma ← opIf ","
      return attributes ++ name ++ Tree.op "..." ++ TypeExpr.comma comma) := by
    apply yields_after
    intro sign
    apply yields_after
    intro comma
    apply yields_pure
    simp only [plain_append_iff]
    exact ⟨⟨⟨plain_attributes, plain_name⟩, plain_op "..." (by decide)⟩, plain_comma comma⟩
  apply yields_after
  intro named
  apply yields_after
  intro dots
  apply yields_ite
  · apply yields_ite
    · apply any_ident_plain.andThen
      intro name plain
      apply yields_after
      intro colon
      have plain_name := (plain_cons_iff _ _).mpr ⟨plain, plain_op ":" (by decide)⟩
      exact (yields_pure _ _ plain_name).andThen variadic
    · exact (yields_pure _ _ plain_nil).andThen variadic
  · apply (types.functionInput first).andThen
    intro input plain_input
    have front : PlainTrees (attributes ++ input) := (plain_append_iff _ _).mpr ⟨plain_attributes, plain_input⟩
    apply yields_after
    intro ended
    apply yields_ite
    · exact yields_pure _ _ front
    apply yields_after
    intro comma
    apply (types.functionInputs false).andThen
    intro others plain_others
    apply yields_pure
    rw [plain_append_iff, plain_append_iff]
    exact ⟨⟨front, plain_op "," (by decide)⟩, plain_others⟩

theorem function_input_plain (first : Bool) : Gives PlainTrees (functionInput (fuel + 1) first) := by
  have receiver (rest : List Tree) (plain : PlainTrees rest) : PlainTrees (.word "mut" :: .word "self" :: rest) :=
    (plain_cons_iff _ _).mpr ⟨plain_word "mut" (by decide), (plain_cons_iff _ _).mpr ⟨plain_word "self" (by decide), plain⟩⟩
  have typed (t : TypeExpr) (plain : t.Plain) : PlainTrees (Tree.op ":" ++ t.trees) :=
    (plain_append_iff _ _).mpr ⟨plain_op ":" (by decide), plain⟩
  apply yields_after
  intro isReceiver
  apply yields_ite
  · apply yields_after
    intro skipped
    apply yields_after
    intro colon
    apply yields_ite
    · apply yields_after
      intro sign
      apply (types.typeExpr true).andThen
      intro t plain
      exact yields_pure _ _ (receiver _ (typed t plain))
    · exact yields_pure _ _ (receiver [] plain_nil)
  · apply yields_after
    intro named
    apply yields_ite
    · apply any_ident_plain.andThen
      intro name plain
      apply yields_after
      intro sign
      apply (types.typeExpr true).andThen
      intro t plain_type
      exact yields_pure _ _ ((plain_cons_iff _ _).mpr ⟨plain, typed t plain_type⟩)
    · apply (types.typeExpr true).andThen
      intro t plain
      exact yields_pure _ _ plain

theorem path_type_plain (plus : Bool) (binder : List Tree) (plain_binder : PlainTrees binder) :
    Gives TypeExpr.Plain (pathType (fuel + 1) plus binder) := by
  apply (types.path false).andThen
  intro found each
  obtain ⟨isGlobal, segments⟩ := found
  have plain_segments : PlainTrees (TypeExpr.separator isGlobal ++ TypeExpr.treesOfPath segments) :=
    (plain_append_iff _ _).mpr ⟨plain_separator isGlobal, plain_path segments each⟩
  have first_plain : (Bound.trait false binder isGlobal segments).Plain :=
    plain_trait false binder isGlobal segments plain_binder each
  have alone (trailing : Bool) :
      Gives TypeExpr.Plain (pure (.traitObject false [.trait false binder isGlobal segments] trailing)) :=
    yields_pure _ _ (plain_trait_object false _ trailing (List.forall_mem_singleton.mpr first_plain))
  apply yields_after
  intro exclaimed
  apply yields_ite
  · apply yields_after
    intro sign
    apply any_group_plain.andThen
    intro arguments plain
    apply yields_pure
    rw [TypeExpr.Plain, TypeExpr.trees, plain_append_iff, plain_append_iff]
    exact ⟨⟨plain_segments, plain_op "!" (by decide)⟩, (plain_cons_iff _ _).mpr ⟨plain, plain_nil⟩⟩
  have with_plus : Gives TypeExpr.Plain (do
      if ← sees startsBound then
        let others ← bounds fuel true false
        return .traitObject false (.trait false binder isGlobal segments :: others.1) others.2
      else return .traitObject false [.trait false binder isGlobal segments] true) := by
    apply yields_after
    intro more
    apply yields_ite
    · apply (types.bounds true false).andThen
      intro found others
      exact yields_pure _ _ (plain_trait_object false _ found.2 (List.forall_mem_cons.mpr ⟨first_plain, others⟩))
    · exact alone true
  apply yields_after
  intro plussed
  apply yields_ite
  · apply yields_after
    intro added
    apply yields_ite
    · exact yields_after fun _ => with_plus
    · exact alone false
  · exact yields_pure _ _ plain_segments

theorem qualified_path_plain (inExpr : Bool) : Gives TypeExpr.Plain (qualifiedPath (fuel + 1) inExpr) := by
  apply yields_after
  intro opening
  apply (types.typeExpr true).andThen
  intro self plain_self
  have qualified (traitPath : Bool × List Segment) (each : ∀ segment ∈ traitPath.2, segment.Plain) :
      Gives TypeExpr.Plain (do
        op ">"
        op "::"
        let first ← segment fuel inExpr
        return .qualified self traitPath.1 traitPath.2 (first :: (← pathRest fuel inExpr false))) := by
    apply yields_after
    intro closing
    apply yields_after
    intro sign
    apply (types.segment inExpr).andThen
    intro first plain_first
    apply (types.pathRest inExpr false).andThen
    intro rest each_rest
    apply yields_pure
    have plain_trait_path : PlainTrees (if traitPath.2.isEmpty then []
        else .word "as" :: separator traitPath.1 ++ treesOfPath traitPath.2) := by
      split
      · exact plain_nil
      · simp only [List.cons_append, plain_cons_iff, plain_append_iff]
        exact ⟨plain_word "as" (by decide), plain_separator _, plain_path traitPath.2 each⟩
    have plain_rest := plain_path (first :: rest) (List.forall_mem_cons.mpr ⟨plain_first, each_rest⟩)
    simp only [TypeExpr.Plain, TypeExpr.trees, plain_append_iff]
    exact ⟨⟨⟨⟨⟨plain_op "<" (by decide), plain_self⟩, plain_trait_path⟩, plain_op ">" (by decide)⟩,
      plain_op "::" (by decide)⟩, plain_rest⟩
  apply yields_after
  intro keyword
  apply yields_ite
  · exact (types.path false).andThen qualified
  · exact (yields_pure _ _ (List.forall_mem_nil _)).andThen qualified

theorem dyn_plain (plus : Bool) : Gives TypeExpr.Plain (do
    word "dyn"
    if ← opIf "*" then
      let (bounds, trailing) ← bounds fuel plus false
      if namesTrait bounds then
        return .other (.word "dyn" :: Tree.op "*" ++ TypeExpr.treesOfBounds bounds
          ++ if trailing then Tree.op "+" else [])
      else fail
    else traitObject fuel plus true) := by
  apply yields_after
  intro keyword
  apply yields_after
  intro starred
  apply yields_ite
  · apply (types.bounds plus false).andThen
    intro found each
    apply yields_ite
    · apply yields_pure
      have plain_plus := plain_op_if found.2 (plain_op "+" (by decide))
      simp only [TypeExpr.Plain, TypeExpr.trees, plain_append_iff, plain_cons_iff]
      exact ⟨⟨⟨plain_word "dyn" (by decide), plain_op "*" (by decide)⟩, plain_bounds found.1 each⟩, plain_plus⟩
    · exact yields_fail _
  · exact types.traitObject plus true

theorem pointer_plain : Gives TypeExpr.Plain (do
    op "*"
    let mutable ← if ← wordIf "mut" then pure true else do word "const"; pure false
    return .pointer mutable (← typeExpr fuel false)) := by
  have pointed (mutable : Bool) : Gives TypeExpr.Plain (do return .pointer mutable (← typeExpr fuel false)) := by
    apply (types.typeExpr false).andThen
    intro target plain
    apply yields_pure
    simp only [TypeExpr.Plain, TypeExpr.trees, plain_append_iff, plain_cons_iff]
    refine ⟨⟨plain_op "*" (by decide), ?_, plain_nil⟩, plain⟩
    cases mutable
    · exact plain_word "const" (by decide)
    · exact plain_word "mut" (by decide)
  apply yields_after
  intro sign
  apply yields_after
  intro writable
  apply yields_ite
  · exact yields_after fun mutable => pointed mutable
  · apply yields_after
    intro keyword
    exact yields_after fun mutable => pointed mutable

theorem reference_plain : Gives TypeExpr.Plain (do
    op "&"
    let lifetime ← lifetimeIf
    let mutable ← wordIf "mut"
    return .reference lifetime mutable (← typeExpr fuel false)) := by
  apply yields_after
  intro sign
  apply lifetime_if_plain.andThen
  intro lifetime plain_lifetime
  apply yields_after
  intro mutable
  apply (types.typeExpr false).andThen
  intro referent plain
  apply yields_pure
  have plain_mutable : PlainTrees (if mutable then [.word "mut"] else []) := by
    cases mutable
    · exact plain_nil
    · exact plain_fixed "mut" (by decide)
  simp only [TypeExpr.Plain, TypeExpr.trees, plain_append_iff]
  exact ⟨⟨⟨plain_op "&" (by decide), plain_lifetime⟩, plain_mutable⟩, plain⟩

theorem impl_plain (plus : Bool) : Gives TypeExpr.Plain (do
    word "impl"
    let (bounds, trailing) ← bounds fuel plus true
    if namesTrait bounds then return .implTrait bounds trailing else fail) := by
  apply yields_after
  intro keyword
  apply (types.bounds plus true).andThen
  intro found each
  apply yields_ite
  · apply yields_pure
    have plain_plus := plain_op_if found.2 (plain_op "+" (by decide))
    simp only [TypeExpr.Plain, TypeExpr.trees, List.cons_append, plain_append_iff, plain_cons_iff]
    exact ⟨plain_word "impl" (by decide), plain_bounds found.1 each, plain_plus⟩
  · exact yields_fail _

theorem type_expr_plain (plus : Bool) : Gives TypeExpr.Plain (typeExpr (fuel + 1) plus) := by
  have fixed (trees : List Tree) (p : Parser Unit) [∀ start, StaysIn start p] (plain : PlainTrees trees) :
      Gives TypeExpr.Plain (do p; return .other trees) := by
    apply yields_after
    intro passed
    exact yields_pure _ _ plain
  apply types.binderIf.andThen
  intro binder plain_binder
  dsimp only
  apply yields_checked
  apply yields_looking
  · exact yields_after fun _ => types.parenthesized plus
  apply yields_looking
  · apply yields_after
    intro here
    apply types.functionType.andThen
    intro trees plain
    exact yields_pure _ _ ((plain_append_iff _ _).mpr ⟨plain_binder, plain⟩)
  apply yields_looking
  · exact yields_after fun _ => types.qualifiedPath false
  apply yields_looking
  · exact yields_after fun _ => types.pathType plus binder plain_binder
  apply yields_looking
  · exact yields_after fun _ => dyn_plain types plus
  apply yields_looking
  · exact yields_after fun _ => yields_in_group types.arrayOrSlice
  apply yields_looking
  · exact yields_after fun _ => pointer_plain types
  apply yields_looking
  · exact yields_after fun _ => reference_plain types
  apply yields_looking
  · exact yields_after fun _ => fixed _ _ (plain_op "!" (by decide))
  apply yields_looking
  · exact yields_after fun _ => impl_plain types plus
  apply yields_looking
  · exact yields_after fun _ => fixed _ _ (plain_fixed "_" (by decide))
  apply yields_looking
  · exact yields_after fun _ => types.traitObject true false
  · exact yields_after fun _ => yields_fail _

end

theorem types_plain (fuel : Nat) : TypesPlain fuel := by
  induction fuel with
  | zero => constructor <;> intros <;> exact yields_fail _
  | succ fuel types =>
    constructor
    case typeExpr => exact type_expr_plain types
    case parenthesized => exact parenthesized_plain types
    case firstElement => exact first_element_plain types
    case moreBounds => exact more_bounds_plain types
    case arrayOrSlice => exact array_or_slice_plain types
    case pathType => exact path_type_plain types
    case qualifiedPath => exact qualified_path_plain types
    case path => exact path_plain types
    case pathRest => exact path_rest_plain types
    case segment => exact segment_plain types
    case angled => exact angled_plain types
    case argument => exact argument_plain types
    case traitObject => exact trait_object_plain types
    case bounds => exact bounds_plain types
    case bound => exact bound_plain types
    case traitBound => exact trait_bound_plain types
    case calledArguments => exact called_arguments_plain types
    case binderIf => exact binder_plain types
    case parameter => exact parameter_plain types
    case functionType => exact function_type_plain types
    case functionInputs => exact function_inputs_plain types
    case functionInput => exact function_input_plain types

end Parser

end ResourceRoutes.Source
