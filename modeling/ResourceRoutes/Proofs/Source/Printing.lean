import ResourceRoutes.Proofs.Source.Token.Sound
import ResourceRoutes.Source.Type.Parser
set_option autoImplicit false

namespace ResourceRoutes.Source

open ResourceRoutes.Source.Tree (SoundTrees Uncommented)
open ResourceRoutes.Source.TypeExpr

structure Tree.Plain (tree : Tree) : Prop where
  sound : tree.Sound
  slashless : ∀ joint, tree ≠ .punct '/' joint

def PlainTrees (trees : List Tree) : Prop := ∀ tree ∈ trees, tree.Plain

abbrev TypeExpr.Plain (t : TypeExpr) : Prop := PlainTrees t.trees

abbrev Segment.Plain (segment : Segment) : Prop := PlainTrees (treesOfSegment segment)

abbrev Arguments.Plain (arguments : Arguments) : Prop := PlainTrees (treesOfArguments arguments)

abbrev Argument.Plain (argument : Argument) : Prop := PlainTrees (treesOfArgument argument)

abbrev Bound.Plain (bound : Bound) : Prop := PlainTrees (treesOfBound bound)

@[simp] theorem plain_nil : PlainTrees [] := List.forall_mem_nil _

@[simp] theorem plain_cons_iff (tree : Tree) (rest : List Tree) :
    PlainTrees (tree :: rest) ↔ tree.Plain ∧ PlainTrees rest := List.forall_mem_cons

@[simp] theorem plain_append_iff (a b : List Tree) : PlainTrees (a ++ b) ↔ PlainTrees a ∧ PlainTrees b :=
  List.forall_mem_append

theorem PlainTrees.sound {trees : List Tree} (plain : PlainTrees trees) : SoundTrees trees :=
  fun tree member => (plain tree member).sound

theorem PlainTrees.uncommented {trees : List Tree} (plain : PlainTrees trees) : Uncommented trees :=
  Tree.uncommented_of_slashless trees fun tree member => (plain tree member).slashless

theorem PlainTrees.uncommented_append {a b : List Tree} (plain : PlainTrees a) (uncommented : Uncommented b) :
    Uncommented (a ++ b) := by
  apply plain.uncommented.append uncommented
  intro last is_last next _ opens
  unfold Tree.OpensComment at opens
  split at opens
  · obtain ⟨rfl, -⟩ := opens
    exact (plain _ (List.mem_of_mem_getLast? is_last)).slashless _ rfl
  · exact opens

theorem plain_word (s : String) (read : Lexeme.anyIdent? s.toList = some s.toList.length) : (Tree.word s).Plain :=
  ⟨fixed_word_sound s read, by nofun⟩

theorem plain_op (s : String) (signs : (s.toList.all fun c => isPunctuation c && c != '\'' && c != '/') = true) :
    PlainTrees (Tree.op s) := by
  unfold Tree.op
  generalize s.toList = cs at signs
  have sign (c : Char) (joint : Bool) (fits : (isPunctuation c && c != '\'' && c != '/') = true) :
      (Tree.punct c joint).Plain := by
    simp only [Bool.and_eq_true, bne_iff_ne] at fits
    refine ⟨fixed_sign_sound c joint fits.1, ?_⟩
    intro joint' same
    cases same
    exact fits.2 rfl
  fun_induction Tree.operatorOf cs with
  | case1 => exact plain_nil
  | case2 c =>
    rw [List.all_cons, Bool.and_eq_true] at signs
    exact (plain_cons_iff _ _).mpr ⟨sign c false signs.1, plain_nil⟩
  | case3 c rest _ ih =>
    rw [List.all_cons, Bool.and_eq_true] at signs
    exact (plain_cons_iff _ _).mpr ⟨sign c true signs.1, ih signs.2⟩

theorem plain_group (delimiter : Delimiter) (content : List Tree) (sound : SoundTrees content)
    (uncommented : Uncommented content) : (Tree.group delimiter content).Plain :=
  ⟨.group delimiter content sound uncommented, by nofun⟩

theorem PlainTrees.group {content : List Tree} (plain : PlainTrees content) (delimiter : Delimiter) :
    (Tree.group delimiter content).Plain := plain_group delimiter content plain.sound plain.uncommented

theorem plain_of_unsigned (tree : Tree) (sound : tree.Sound) (unsigned : ∀ d joint, tree ≠ .punct d joint) : tree.Plain :=
  ⟨sound, unsigned '/'⟩

theorem plain_separator (present : Bool) : PlainTrees (separator present) := by
  cases present
  · exact plain_nil
  · exact plain_op "::" (by decide)

theorem plain_comma (present : Bool) : PlainTrees (comma present) := by
  cases present
  · exact plain_nil
  · exact plain_op "," (by decide)

theorem plain_joined {α : Type} (print : α → List Tree) (printAll : List α → List Tree) (sign : List Tree)
    (of_none : printAll [] = []) (of_one : ∀ a, printAll [a] = print a)
    (of_more : ∀ a b rest, printAll (a :: b :: rest) = print a ++ sign ++ printAll (b :: rest))
    (plain_sign : PlainTrees sign) (items : List α) (each : ∀ a ∈ items, PlainTrees (print a)) :
    PlainTrees (printAll items) := by
  induction items with
  | nil =>
    rw [of_none]
    exact plain_nil
  | cons a rest ih =>
    obtain ⟨own, others⟩ := List.forall_mem_cons.mp each
    cases rest with
    | nil =>
      rw [of_one]
      exact own
    | cons b rest =>
      rw [of_more, plain_append_iff, plain_append_iff]
      exact ⟨⟨own, plain_sign⟩, ih others⟩

theorem plain_types (types : List TypeExpr) (each : ∀ t ∈ types, t.Plain) : PlainTrees (treesOfTypes types) :=
  plain_joined trees treesOfTypes (Tree.op ",") rfl (fun _ => rfl) (fun _ _ _ => rfl) (plain_op "," (by decide)) types each

theorem plain_path (segments : List Segment) (each : ∀ segment ∈ segments, segment.Plain) :
    PlainTrees (treesOfPath segments) :=
  plain_joined treesOfSegment treesOfPath (Tree.op "::") rfl (fun _ => rfl) (fun _ _ _ => rfl)
    (plain_op "::" (by decide)) segments each

theorem plain_bounds (bounds : List Bound) (each : ∀ bound ∈ bounds, bound.Plain) :
    PlainTrees (treesOfBounds bounds) :=
  plain_joined treesOfBound treesOfBounds (Tree.op "+") rfl (fun _ => rfl) (fun _ _ _ => rfl)
    (plain_op "+" (by decide)) bounds each

theorem plain_join (sign : String) (plain_sign : PlainTrees (Tree.op sign)) (items : List (List Tree))
    (each : ∀ trees ∈ items, PlainTrees trees) : PlainTrees (Parser.joinTrees sign items) :=
  plain_joined id (Parser.joinTrees sign) (Tree.op sign) rfl (fun _ => rfl) (fun _ _ _ => rfl) plain_sign items each

theorem plain_trailing {α : Type} (sign : String) (plain_sign : PlainTrees (Tree.op sign)) (items : List α) (trailing : Bool) :
    PlainTrees (Parser.trailingTrees sign items trailing) := by
  unfold Parser.trailingTrees
  split
  · exact plain_sign
  · exact plain_nil

theorem plain_lifetimes (arguments : List Argument) (trailing : Bool)
    (each : ∀ argument ∈ arguments, argument.Plain) :
    PlainTrees (treesOfLifetimes arguments trailing) := by
  induction arguments with
  | nil => exact plain_nil
  | cons argument rest ih =>
    obtain ⟨own, others⟩ := List.forall_mem_cons.mp each
    cases argument with
    | lifetime name =>
      have plain : (Tree.lifetime name).Plain := own _ (List.mem_cons_self ..)
      rw [treesOfLifetimes, List.cons_append, plain_cons_iff, plain_append_iff]
      exact ⟨plain, plain_comma _, ih others⟩
    | type t => exact ih others
    | other trees => exact ih others

theorem plain_others (due : Bool) (arguments : List Argument) (trailing : Bool)
    (each : ∀ argument ∈ arguments, argument.Plain) :
    PlainTrees (treesOfOthers due arguments trailing) := by
  induction arguments generalizing due with
  | nil => exact plain_nil
  | cons argument rest ih =>
    obtain ⟨own, others⟩ := List.forall_mem_cons.mp each
    have printed : PlainTrees (comma due ++ treesOfArgument argument ++ comma (!rest.isEmpty || trailing) ++
        treesOfOthers false rest trailing) := by
      simp only [plain_append_iff]
      exact ⟨⟨⟨plain_comma due, own⟩, plain_comma _⟩, ih false others⟩
    cases argument with
    | lifetime name => exact ih due others
    | type t => exact printed
    | other trees => exact printed

theorem plain_angled (separated : Bool) (arguments : List Argument) (trailing : Bool)
    (each : ∀ argument ∈ arguments, argument.Plain) :
    (Arguments.angled separated arguments trailing).Plain := by
  simp only [Arguments.Plain, treesOfArguments, plain_append_iff]
  exact ⟨⟨⟨⟨plain_separator separated, plain_op "<" (by decide)⟩, plain_lifetimes arguments trailing each⟩,
    plain_others _ arguments trailing each⟩, plain_op ">" (by decide)⟩

theorem plain_called (inputs : List TypeExpr) (trailing : Bool) (each : ∀ t ∈ inputs, t.Plain) :
    (Tree.group .parens (treesOfTypes inputs ++ comma (trailing && !inputs.isEmpty))).Plain := by
  have content : PlainTrees (treesOfTypes inputs ++ comma (trailing && !inputs.isEmpty)) :=
    (plain_append_iff _ _).mpr ⟨plain_types inputs each, plain_comma _⟩
  exact content.group .parens

theorem plain_trait (inParens : Bool) (leading : List Tree) (isGlobal : Bool) (segments : List Segment)
    (plain_leading : PlainTrees leading) (each : ∀ segment ∈ segments, segment.Plain) :
    (Bound.trait inParens leading isGlobal segments).Plain := by
  have inner : PlainTrees (leading ++ separator isGlobal ++ treesOfPath segments) := by
    simp only [plain_append_iff]
    exact ⟨⟨plain_leading, plain_separator isGlobal⟩, plain_path segments each⟩
  rw [Bound.Plain, treesOfBound]
  cases inParens with
  | true => exact (plain_cons_iff _ _).mpr ⟨inner.group .parens, plain_nil⟩
  | false => exact inner

theorem plain_trait_object (isDyn : Bool) (bounds : List Bound) (trailing : Bool)
    (each : ∀ bound ∈ bounds, bound.Plain) :
    (TypeExpr.traitObject isDyn bounds trailing).Plain := by
  rw [TypeExpr.Plain, TypeExpr.trees, plain_append_iff, plain_append_iff]
  refine ⟨⟨?_, plain_bounds bounds each⟩, ?_⟩
  · cases isDyn
    · exact plain_nil
    · exact (plain_cons_iff _ _).mpr ⟨plain_word "dyn" (by decide), plain_nil⟩
  · cases trailing
    · exact plain_nil
    · exact plain_op "+" (by decide)

theorem plain_lone_bound (bound : Bound) : (TypeExpr.traitObject false [bound] false).Plain ↔ bound.Plain := by
  rw [TypeExpr.Plain, TypeExpr.trees, plain_append_iff, plain_append_iff]
  exact ⟨fun plain => plain.1.2, fun plain => ⟨⟨plain_nil, plain⟩, plain_nil⟩⟩

theorem plain_in_parens (inParens : Bool) (leading : List Tree) (isGlobal : Bool) (segments : List Segment)
    (plain : (Bound.trait inParens leading isGlobal segments).Plain) : (Bound.trait true leading isGlobal segments).Plain := by
  cases inParens with
  | true => exact plain
  | false =>
    have inner : PlainTrees (leading ++ separator isGlobal ++ treesOfPath segments) := plain
    exact (plain_cons_iff _ _).mpr ⟨inner.group .parens, plain_nil⟩

end ResourceRoutes.Source
