import ResourceRoutes.Proofs.Source.Namesakes
import ResourceRoutes.Proofs.Source.Recognition
set_option autoImplicit false

namespace ResourceRoutes.Source

inductive BoolType : TypeExpr → Prop where
  | mk : BoolType (.path false [.mk "bool".toList .none])

inductive TupleOfOne (form : TypeExpr → Prop) : TypeExpr → Prop where
  | mk (element : TypeExpr) (trailing : Bool) (fits : InParens form element) :
      TupleOfOne form (.tuple [element] trailing)

inductive ReturnsTruth : Option TypeExpr → Prop where
  | plain (t : TypeExpr) (fits : InParens BoolType t) : ReturnsTruth (some t)
  | tupled (t : TypeExpr) (fits : InParens (TupleOfOne BoolType) t) : ReturnsTruth (some t)

structure DeclaresHook (names : TypeNames) (header : FunctionHeader) : Prop where
  takes : header.params.tail.map (Param.kind names) ∈ Callable.shapes
  returns : ReturnsTruth header.output

theorem bool_type_iff (t : TypeExpr) : InParens BoolType t ↔ BoolType t.stripParens := by
  refine in_parens_iff BoolType (fun inner fits => ?_) t
  cases fits

theorem tuple_of_one_iff (t : TypeExpr) : InParens (TupleOfOne BoolType) t ↔ TupleOfOne BoolType t.stripParens := by
  refine in_parens_iff (TupleOfOne BoolType) (fun inner fits => ?_) t
  cases fits

theorem is_bool_iff (t : TypeExpr) : t.isBool = true ↔ InParens BoolType t := by
  rw [bool_type_iff, TypeExpr.isBool]
  split
  · rename_i name shape
    rw [shape, beq_iff_eq]
    constructor
    · rintro rfl
      exact .mk
    · intro fits
      cases fits
      rfl
  · rename_i other
    refine iff_of_false Bool.false_ne_true fun fits => ?_
    generalize t.stripParens = stripped at other fits
    cases fits
    exact other _ rfl

theorem classify_return_iff (t : TypeExpr) : classifyReturn t = .bool ↔ InParens BoolType t := by
  rw [← is_bool_iff, classifyReturn]
  cases t.isBool <;> simp

theorem classify_elements_iff (elements : List TypeExpr) (trailing : Bool) :
    elements.map classifyReturn = [.bool] ↔ TupleOfOne BoolType (.tuple elements trailing) := by
  rw [List.map_eq_singleton_iff]
  constructor
  · rintro ⟨element, rfl, truth⟩
    exact .mk element trailing ((classify_return_iff element).mp truth)
  · intro alone
    cases alone with
    | mk element trailing fits => exact ⟨element, rfl, (classify_return_iff element).mpr fits⟩

theorem returns_truth_iff (output : Option TypeExpr) : classifyOutput output = [.bool] ↔ ReturnsTruth output := by
  cases output with
  | none =>
    constructor
    · intro nothing
      cases nothing
    · intro truth
      cases truth
  | some t =>
    have either : ReturnsTruth (some t) ↔ BoolType t.stripParens ∨ TupleOfOne BoolType t.stripParens := by
      rw [← bool_type_iff, ← tuple_of_one_iff]
      constructor
      · intro truth
        cases truth with
        | plain _ fits => exact .inl fits
        | tupled _ fits => exact .inr fits
      · intro truth
        cases truth with
        | inl fits => exact .plain t fits
        | inr fits => exact .tupled t fits
    rw [either, classifyOutput]
    cases shape : t.stripParens with
    | tuple elements trailing =>
      refine (classify_elements_iff elements trailing).trans (or_iff_right fun fits => ?_).symm
      cases fits
    | _ =>
      -- A type that is no tuple is the one value that is returned.
      rw [List.cons.injEq, and_iff_left rfl, classify_return_iff, bool_type_iff, shape]
      refine (or_iff_left fun fits => ?_).symm
      cases fits

theorem hook_valid_iff (names : TypeNames) (header : FunctionHeader) :
    (header.describe names).validate .hook true = .ok () ↔ DeclaresHook names header := by
  rw [described_valid_iff]
  constructor
  · intro valid
    exact ⟨valid.1, (returns_truth_iff header.output).mp valid.2⟩
  · intro declared
    exact ⟨declared.takes, (returns_truth_iff header.output).mpr declared.returns⟩

theorem provides_hook_iff (names : TypeNames) (items : List Item) (target : List Char) (method : String) :
    (describeType names items target).Provides method .hook ↔
      ∃ header, attached? items target method = some header ∧ DeclaresHook names header := by
  simp only [Descriptor.Provides, get_describe_type, Option.map_eq_some_iff, ← hook_valid_iff]
  constructor
  · rintro ⟨_, ⟨header, attached, rfl⟩, valid⟩
    exact ⟨header, attached, valid⟩
  · rintro ⟨header, attached, valid⟩
    exact ⟨_, ⟨header, attached, rfl⟩, valid⟩

theorem hook_flag_iff (names : TypeNames) (text : String) (items : List Item)
    (parsed : itemsOfText? text.toList = some items) :
    ∃ resources, discover? names text = some resources ∧
      resources.map (·.name) = (structureNames items).map String.ofList ∧
      ∀ (place : Nat) (resource : Resource), resources[place]? = some resource →
        ∃ target, (structureNames items)[place]? = some target ∧ ∀ hook : HookKind,
          (introspect resource.name resource.descriptor).hasHook hook = true ↔
            target ∉ (structureNames items).take place ∧
              ∃ header, attached? items target hook.name = some header ∧ DeclaresHook names header := by
  refine ⟨resourcesOfItems names items, discover_parsed names text items parsed, resources_of_names names items [] _,
    fun place resource found => ?_⟩
  obtain ⟨target, declared, rfl⟩ := resource_declared_at names items place resource found
  refine ⟨target, declared, fun hook => ?_⟩
  rw [introspect_hook_iff]
  by_cases earlier : target ∈ (structureNames items).take place
  · rw [if_pos earlier]
    refine iff_of_false ?_ fun told => told.1 earlier
    intro provided
    obtain ⟨callable, held, -⟩ := provided
    cases held
  · rw [if_neg earlier, provides_hook_iff, and_iff_right earlier]

def plainTruth : String := "struct S;impl S{fn before_all(&self,w:&mut ResponseWriter,r:&Request)->((bool)){}}"

theorem plain_truth_sets_flag :
    ∃ items, itemsOfText? plainTruth.toList = some items ∧
      ∃ resources, discover? {} plainTruth = some resources ∧
        resources.map (·.name) = (structureNames items).map String.ofList ∧
        ∀ (place : Nat) (resource : Resource), resources[place]? = some resource →
          ∃ target, (structureNames items)[place]? = some target ∧ ∀ hook : HookKind,
            (introspect resource.name resource.descriptor).hasHook hook = true ↔
              target ∉ (structureNames items).take place ∧
                ∃ header, attached? items target hook.name = some header ∧ DeclaresHook {} header := by
  have read : (itemsOfText? plainTruth.toList).isSome = true := by decide +kernel
  obtain ⟨items, parsed⟩ := Option.isSome_iff_exists.mp read
  exact ⟨items, parsed, hook_flag_iff {} plainTruth items parsed⟩

def tupledTruth : String := "struct S;impl S{fn before_all(&self,w:&mut ResponseWriter,r:&Request)->(bool,){}}"

def tupledMembers : Descriptor :=
  .ofList [("BeforeAll", .function ⟨[.other "&self", .responseWriter, .requestPointer], [.bool]⟩)]

theorem tupled_truth_sets_flag :
    ∃ (items : List Item) (header : FunctionHeader) (t : TypeExpr),
      itemsOfText? tupledTruth.toList = some items ∧ attached? items "S".toList "BeforeAll" = some header ∧
      header.output = some t ∧ ¬ InParens BoolType t ∧ discover? {} tupledTruth = some [⟨"S", tupledMembers⟩] ∧
      (introspect "S" tupledMembers).hasHook .beforeAll = true := by
  have read : (itemsOfText? tupledTruth.toList).map (fun items => (resourcesOfItems {} items,
        (attached? items "S".toList "BeforeAll").map fun header => header.output.map TypeExpr.isBool)) =
      some ([⟨"S", tupledMembers⟩], some (some false)) := by decide +kernel
  obtain ⟨items, parsed, held⟩ := Option.map_eq_some_iff.mp read
  obtain ⟨found, told⟩ := Prod.mk.inj held
  obtain ⟨header, attached, returned⟩ := Option.map_eq_some_iff.mp told
  obtain ⟨t, output, no_bool⟩ := Option.map_eq_some_iff.mp returned
  refine ⟨items, header, t, parsed, attached, output, ?_, ?_, by decide⟩
  · rw [← is_bool_iff, no_bool]
    exact Bool.false_ne_true
  · rw [discover_parsed {} tupledTruth items parsed, found]

end ResourceRoutes.Source
