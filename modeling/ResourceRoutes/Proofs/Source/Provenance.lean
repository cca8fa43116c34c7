import ResourceRoutes.Proofs.Source.Attachment
import ResourceRoutes.Proofs.Source.Token.Names
import ResourceRoutes.Proofs.Source.Yields
set_option autoImplicit false

/- Each type in a signature is what the parser of types makes of tokens whose names are those of the text. -/
namespace ResourceRoutes.Source

def NamedTrees (trees : List Tree) : Prop := ∀ tree ∈ trees, Tree.Throughout Tree.Named tree

def TypeExpr.Read (t : TypeExpr) : Prop :=
  ∃ fuel plus trees rest, NamedTrees trees ∧ Parser.typeExpr fuel plus trees = some (t, rest)

def Param.Read : Param → Prop
  | .receiver _ => True
  | .typed t => t.Read

structure FunctionHeader.Read (header : FunctionHeader) : Prop where
  params : ∀ p ∈ header.params, p.Read
  typed : ∀ p ∈ header.params.drop 1, p.isReceiver = false
  output : ∀ t ∈ header.output, t.Read

def Member.Read : Member → Prop
  | .function header => header.Read
  | .other => True

def Item.Read : Item → Prop
  | .implementation impl' => ∀ member ∈ impl'.members, member.Read
  | _ => True

namespace Parser

instance named_inherited : Inherited NamedTrees where
  left_over trees rest ending named := fun tree member => named tree (ending.subset member)
  inside delimiter content rest named := by
    intro tree member
    cases named _ (List.mem_cons_self ..) with
    | group _ _ inside => exact inside tree member

abbrev Yields {α : Type} (Q : α → Prop) (p : Parser α) : Prop := YieldsFrom NamedTrees Q p

theorem type_read (fuel : Nat) (plus : Bool) : Yields TypeExpr.Read (typeExpr fuel plus) :=
  ⟨fun trees _ rest named run => ⟨fuel, plus, trees, rest, named, run⟩⟩

theorem any_type_read : Yields TypeExpr.Read anyType := by
  apply yields_after
  intro enough
  exact type_read enough true

theorem output_read : Yields (fun found => ∀ t ∈ found, TypeExpr.Read t) output := by
  apply yields_after
  intro arrow
  apply yields_ite
  · apply any_type_read.andThen
    intro t read
    apply yields_pure
    intro u is_type
    cases is_type
    exact read
  · apply yields_pure
    intro t is_type
    cases is_type

theorem typed_read (t : TypeExpr) (read : t.Read) : ∀ p ∈ some (Param.typed t), p.Read := by
  intro p is_param
  cases is_param
  exact read

theorem typed_param_read : Yields (fun found => ∀ p ∈ found, Param.Read p) typedParam := by
  apply yields_after
  intro bare
  apply yields_ite
  · apply any_type_read.andThen
    intro t read
    exact yields_pure _ _ (typed_read t read)
  · apply yields_after
    intro enough
    apply yields_after
    intro pattern
    apply yields_after
    intro colon
    apply yields_after
    intro dots
    apply yields_ite
    · apply yields_pure
      intro p is_param
      cases is_param
    · apply any_type_read.andThen
      intro t read
      exact yields_pure _ _ (typed_read t read)

theorem param_read : Yields (fun found => ∀ p ∈ found, Param.Read p) param := by
  apply yields_after
  intro attributes
  apply yields_after
  intro dots
  apply yields_ite
  · apply yields_pure
    intro p is_param
    cases is_param
  · apply yields_get.andThen
    intro here named
    cases reading : receiver here with
    | none => exact typed_param_read
    | some found =>
      apply yields_after_set
      · exact left_over_kept receiver here found.1 found.2 named reading
      · apply yields_pure
        intro p is_param
        cases is_param
        trivial

def ParamsRead (first : Bool) (params : List Param) : Prop :=
  (∀ p ∈ params, p.Read) ∧ ∀ p ∈ params.drop (if first then 1 else 0), p.isReceiver = false

theorem params_read_nil (first : Bool) : ParamsRead first [] := by
  constructor
  · intro p member
    cases member
  · intro p member
    rw [List.drop_nil] at member
    cases member

theorem params_read_cons (first : Bool) (p : Param) (others : List Param) (own : p.Read)
    (placed : ¬ (p.isReceiver && !first) = true) (read : ParamsRead false others) :
    ParamsRead first (p :: others) := by
  refine ⟨List.forall_mem_cons.mpr ⟨own, read.1⟩, ?_⟩
  cases first with
  | true => exact read.2
  | false =>
    rw [Bool.not_false, Bool.and_true, Bool.not_eq_true] at placed
    exact List.forall_mem_cons.mpr ⟨placed, read.2⟩

theorem params_read (first : Bool) (fuel : Nat) :
    Yields (fun found => ParamsRead first found.1) (params first fuel) := by
  induction fuel generalizing first with
  | zero => exact yields_fail _
  | succ fuel ih =>
    apply yields_after
    intro ended
    apply yields_ite
    · exact yields_pure _ _ (params_read_nil first)
    apply param_read.andThen
    intro found read
    cases found with
    | none =>
      apply yields_after
      intro comma
      exact yields_pure _ _ (params_read_nil first)
    | some p =>
      have own : p.Read := read p rfl
      dsimp only
      by_cases misplaced : (p.isReceiver && !first) = true
      · constructor
        intro trees a rest _ run
        rw [if_pos misplaced] at run
        cases run
      · rw [if_neg misplaced]
        apply yields_after
        intro last
        apply yields_ite
        · exact yields_pure _ _ (params_read_cons first p [] own misplaced (params_read_nil false))
        apply yields_after
        intro comma
        apply (ih false).andThen
        intro others hold
        exact yields_pure _ _ (params_read_cons first p others.1 own misplaced hold)

theorem header_read : Yields FunctionHeader.Read functionHeader := by
  apply yields_after
  intro isConst
  apply yields_after
  intro isAsync
  apply yields_after
  intro isUnsafe
  apply yields_after
  intro abi
  apply yields_after
  intro keyword
  apply yields_after
  intro name
  apply yields_after
  intro parameters
  have group_read : Yields (fun found => ParamsRead true found.1)
      (inGroup .parens do params true (← fuel)) := by
    apply yields_in_group
    apply yields_after
    intro enough
    exact params_read true enough
  apply group_read.andThen
  intro found read
  apply output_read.andThen
  intro output read_output
  apply yields_after
  intro conditions
  apply yields_pure
  exact ⟨read.1, read.2, read_output⟩

theorem function_read : Yields Member.Read implementedFunction := by
  apply yields_after
  intro shown
  apply yields_after
  intro isDefault
  apply header_read.andThen
  intro header read
  apply yields_after
  intro bodiless
  apply yields_ite
  · exact yields_pure _ _ trivial
  · apply yields_after
    intro body
    exact yields_pure _ _ read

theorem no_function_read (p : Parser Unit) [stays : ∀ start, StaysIn start p] :
    Yields Member.Read (do p; return .other) := by
  apply yields_after
  intro passed
  exact yields_pure _ _ trivial

theorem member_read : Yields Member.Read member := by
  apply yields_after
  intro attributes
  apply yields_get.andThen
  intro start named
  apply yields_after
  intro shown
  apply yields_after
  intro isDefault
  have form_read : Yields Member.Read (do
      let trees ← get
      if startsFunction trees then
        set start
        implementedFunction
      else
        if atWord "const" trees then constantItem
        else if atWord "type" trees then typeItem false true
        else if !shown && !isDefault && startsMacro trees then macroItem false
        else fail
        return .other) := by
    apply yields_after
    intro trees
    apply yields_ite
    · exact yields_after_set start named function_read
    · repeat' apply yields_ite
      · exact no_function_read constantItem
      · exact no_function_read (typeItem false true)
      · exact no_function_read (macroItem false)
      · exact ⟨fun trees a rest _ run => by cases run⟩
  apply yields_ite
  · apply yields_after
    intro skipped
    exact form_read
  · exact form_read

def BlockRead (found : Option Implementation) : Prop := ∀ impl' ∈ found, ∀ member ∈ impl'.members, member.Read

theorem block_read (target : TypeExpr) (ofTrait : Bool) (passes : Bool) : Yields BlockRead (do
      whereClause
      let members ← inGroup .braces do
        let _ ← innerAttributes
        many member
      if passes then return none else return some { target, ofTrait, members }) := by
  apply yields_after
  intro conditions
  have members_read : Yields (fun members => ∀ member ∈ members, Member.Read member) (inGroup .braces do
      let _ ← innerAttributes
      many member) := by
    apply yields_in_group
    apply yields_after
    intro attributes
    exact yields_many member_read
  apply members_read.andThen
  intro members read
  apply yields_ite
  · apply yields_pure
    intro impl' is_block
    cases is_block
  · apply yields_pure
    intro impl' is_block
    cases is_block
    exact read

theorem implementation_read : Yields BlockRead implementation := by
  unfold implementation
  dsimp only
  repeat' first
    | exact block_read _ _ _
    | apply yields_ite
    | apply yields_after; intro passed

theorem implementation_item_read (start : List Tree) (named : NamedTrees start) :
    Yields Item.Read (implementationItem start) := by
  apply yields_after_set start named
  apply implementation_read.andThen
  intro found read
  cases found with
  | none => exact yields_pure _ _ trivial
  | some impl' => exact yields_pure _ _ (read impl' rfl)

theorem other_read (p : Parser Unit) [stays : ∀ start, StaysIn start p] : Yields Item.Read (other p) := by
  apply yields_after
  intro passed
  exact yields_pure _ _ trivial

theorem module_read (fuel : Nat) : Yields Item.Read (module fuel) := by
  cases fuel with
  | zero => exact yields_fail _
  | succ fuel =>
    unfold module
    have stays := items_stay fuel
    cases stays
    dsimp only
    repeat' first
      | exact yields_pure _ _ trivial
      | apply yields_ite
      | apply yields_after; intro passed

theorem structure_read : Yields Item.Read structureItem := by
  apply yields_after
  intro keyword
  apply yields_after
  intro name
  apply yields_after
  intro parameters
  apply yields_after
  intro fields
  exact yields_pure _ _ trivial

theorem item_read (fuel : Nat) : Yields Item.Read (item fuel) := by
  cases fuel with
  | zero => exact yields_fail _
  | succ fuel =>
    apply yields_after
    intro attributes
    apply yields_get.andThen
    intro start named
    apply yields_after
    intro shown
    apply yields_after
    intro trees
    repeat' first
      | exact other_read _
      | exact yields_fail _
      | exact implementation_item_read start named
      | apply yields_ite
    · apply yields_after
      intro keyword
      exact module_read fuel
    · exact module_read fuel
    · exact structure_read

theorem file_read : Yields (fun items => ∀ item ∈ items, Item.Read item) file := by
  apply yields_after
  intro attributes
  apply yields_after
  intro enough
  have stays := (items_stay enough).item
  exact yields_many (item_read enough)

end Parser

theorem items_read (text : List Char) (items : List Item) (parsed : itemsOfText? text = some items) :
    ∀ item ∈ items, item.Read := by
  obtain ⟨trees, lexed, read⟩ := Option.bind_eq_some_iff.mp parsed
  exact Parser.file_read.given trees items [] (trees_named _ trees lexed) ((Parser.all_eq_some_iff _ _ _).mp read)

theorem attached_read (text : List Char) (items : List Item) (parsed : itemsOfText? text = some items)
    (target : List Char) (method : String) (header : FunctionHeader)
    (attached : attached? items target method = some header) : header.Read := by
  have listed : ∃ ofTrait, (ofTrait, header) ∈ functionsFor items target := by
    have among (ofTrait : Bool) (member : header ∈ functionsNamed (functionsFor items target) ofTrait method) :
        (ofTrait, header) ∈ functionsFor items target := by
      obtain ⟨⟨sort, _⟩, kept, rfl⟩ := List.mem_map.mp member
      obtain ⟨listed, own⟩ := List.mem_filter.mp kept
      simp only [Bool.and_eq_true, beq_iff_eq] at own
      exact own.1 ▸ listed
    cases Option.or_eq_some_iff.mp attached with
    | inl last => exact ⟨false, among false (List.mem_of_getLast? last)⟩
    | inr first => exact ⟨true, among true (List.mem_of_head? first.2)⟩
  obtain ⟨ofTrait, listed⟩ := listed
  obtain ⟨block, present, -, member, -⟩ := (mem_functions_for items target ofTrait header).mp listed
  exact items_read text items parsed _ present _ member

end ResourceRoutes.Source
