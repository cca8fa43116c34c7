import ResourceRoutes.Proofs.Introspection.States
import ResourceRoutes.Proofs.Source.Attachment
set_option autoImplicit false

namespace ResourceRoutes

structure Report.Rejects (report : Report) (method : String) : Prop where
  warned : report.warningsOf method ≠ []
  unrecorded : report.recordsOf method = []
  unflagged : ∀ hook : HookKind, hook.name = method → report.hasHook hook = false

theorem rejects_iff (name : String) (d : Descriptor) (entry : String × Rule) (known : entry ∈ recognized)
    (callable : Callable) (held : d.get? entry.1 = some callable) :
    (introspect name d).Rejects entry.1 ↔ callable.validate entry.2 true ≠ .ok () := by
  rcases recognized_cases entry known with ⟨kind, rfl⟩ | ⟨hook, rfl⟩
  · have settled := handler_settled name d kind
    refine Iff.trans ⟨fun rejects => rejects.warned, fun warned => ?_⟩ (settled.warned_iff callable held)
    exact ⟨warned, settled.skipped_of_warned warned, fun hook same => absurd same (handler_no_hook kind hook)⟩
  · have settled := hook_settled name d hook
    refine Iff.trans ⟨fun rejects => rejects.warned, fun warned => ?_⟩ (settled.warned_iff callable held)
    refine ⟨warned, hook_unrecorded name d hook, fun other same => ?_⟩
    rw [HookKind.name_injective other hook same]
    exact settled.skipped_of_warned warned

namespace Source

def PassesWithoutFirst (names : TypeNames) (types : List TypeExpr) (output : Option TypeExpr) (rule : Rule) : Prop :=
  ∃ first rest, types = first :: rest ∧ rest.map names.classifyParam ∈ Callable.shapes ∧
    classifyOutput output = rule.returns

theorem receiverless_valid_iff (names : TypeNames) (header : FunctionHeader) (types : List TypeExpr)
    (receiverless : header.params = types.map .typed) (rule : Rule) :
    (described names header).validate rule true = .ok () ↔ PassesWithoutFirst names types header.output rule := by
  have params : (header.describe names).params = types.map names.classifyParam := by
    simp [FunctionHeader.describe, receiverless]
  rw [described, Callable.validate, Signature.validate_iff, Signature.effectiveParams, if_pos rfl, params]
  cases types with
  | nil => exact iff_of_false (by simp [Callable.shapes]) (by rintro ⟨_, _, ⟨⟩, _⟩)
  | cons first rest =>
    constructor
    · rintro ⟨shaped, returned⟩
      exact ⟨first, rest, rfl, shaped, returned⟩
    · rintro ⟨_, _, ⟨⟩, shaped, returned⟩
      exact ⟨shaped, returned⟩

theorem receiverless_rejected_iff (names : TypeNames) (text : String) (items : List Item)
    (parsed : itemsOfText? text.toList = some items) (target : List Char) (declared : target ∈ structureNames items)
    (entry : String × Rule) (known : entry ∈ recognized) (header : FunctionHeader)
    (attached : attached? items target entry.1 = some header) (types : List TypeExpr)
    (receiverless : header.params = types.map .typed) :
    ∃ resources resource, discover? names text = some resources ∧
      resources.find? (·.name == String.ofList target) = some resource ∧
      resource.descriptor.get? entry.1 = some (.function (header.describe names)) ∧
      ((introspect resource.name resource.descriptor).Rejects entry.1 ↔
        ¬ PassesWithoutFirst names types header.output entry.2) := by
  have held : (describeType names items target).get? entry.1 = some (described names header) := by
    rw [get_describe_type, attached, Option.map_some]
  refine ⟨resourcesOfItems names items, _, discover_parsed names text items parsed,
    resource_declared names items target declared, held, ?_⟩
  rw [rejects_iff _ _ entry known _ held, Ne, receiverless_valid_iff names header types receiverless]

theorem typed_of_receiverless (params : List Param) (receiverless : ∀ p ∈ params, p.isReceiver = false) :
    ∃ types : List TypeExpr, params = types.map .typed := by
  induction params with
  | nil => exact ⟨[], rfl⟩
  | cons p rest ih =>
    obtain ⟨types, rfl⟩ := ih fun other member => receiverless other (List.mem_cons_of_mem p member)
    cases p with
    | receiver trees => cases receiverless _ (List.mem_cons_self ..)
    | typed t => exact ⟨t :: types, rfl⟩

def plainHook : String := "struct S;impl S{fn before_all(w:&mut ResponseWriter,r:&Request)->bool{}}"

theorem plain_hook_rejected :
    ∃ (items : List Item) (header : FunctionHeader) (types : List TypeExpr),
      itemsOfText? plainHook.toList = some items ∧ "S".toList ∈ structureNames items ∧
      ("BeforeAll", .hook) ∈ recognized ∧ attached? items "S".toList "BeforeAll" = some header ∧
      header.params = types.map .typed ∧
      ∃ resources resource, discover? {} plainHook = some resources ∧
        resources.find? (·.name == String.ofList "S".toList) = some resource ∧
        resource.descriptor.get? "BeforeAll" = some (.function (header.describe {})) ∧
        ((introspect resource.name resource.descriptor).Rejects "BeforeAll" ↔
          ¬ PassesWithoutFirst {} types header.output .hook) := by
  have read : (itemsOfText? plainHook.toList).map (fun items => (structureNames items,
        (attached? items "S".toList "BeforeAll").map fun header => header.params.all (!·.isReceiver))) =
      some (["S".toList], some true) := by decide +kernel
  obtain ⟨items, parsed, held⟩ := Option.map_eq_some_iff.mp read
  obtain ⟨structures, receivers⟩ := Prod.mk.inj held
  obtain ⟨header, attached, none_receives⟩ := Option.map_eq_some_iff.mp receivers
  obtain ⟨types, typed⟩ := typed_of_receiverless header.params (by simpa using none_receives)
  have declared : "S".toList ∈ structureNames items := structures ▸ List.mem_singleton_self _
  have known : ("BeforeAll", .hook) ∈ recognized := by decide
  exact ⟨items, header, types, parsed, declared, known, attached, typed,
    receiverless_rejected_iff {} plainHook items parsed "S".toList declared ("BeforeAll", .hook) known header attached
      types typed⟩

def extraParameter : String := "struct S;impl S{fn put(x:u8,w:&mut ResponseWriter,r:&Request){}}"

def extraMembers : Descriptor := .ofList [("Put", .function ⟨[.other "u8", .responseWriter, .requestPointer], []⟩)]

theorem extra_parameter_recorded :
    ∃ (items : List Item) (header : FunctionHeader) (types : List TypeExpr),
      itemsOfText? extraParameter.toList = some items ∧ attached? items "S".toList "Put" = some header ∧
      header.params = types.map .typed ∧ discover? {} extraParameter = some [⟨"S", extraMembers⟩] ∧
      introspect "S" extraMembers = ⟨"S", [⟨"Put", 2⟩], false, false, false, []⟩ ∧
      ¬ (introspect "S" extraMembers).Rejects "Put" := by
  have read : (itemsOfText? extraParameter.toList).map (fun items => (resourcesOfItems {} items,
        (attached? items "S".toList "Put").map fun header => header.params.all (!·.isReceiver))) =
      some ([⟨"S", extraMembers⟩], some true) := by decide +kernel
  obtain ⟨items, parsed, held⟩ := Option.map_eq_some_iff.mp read
  obtain ⟨found, receivers⟩ := Prod.mk.inj held
  obtain ⟨header, attached, none_receives⟩ := Option.map_eq_some_iff.mp receivers
  obtain ⟨types, typed⟩ := typed_of_receiverless header.params (by simpa using none_receives)
  refine ⟨items, header, types, parsed, attached, typed, ?_, by decide, fun rejects => ?_⟩
  · rw [discover_parsed {} extraParameter items parsed, found]
  · exact rejects.warned (by decide)

end Source

end ResourceRoutes
