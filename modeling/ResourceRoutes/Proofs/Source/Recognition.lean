import ResourceRoutes.Proofs.Introspection.States
import ResourceRoutes.Proofs.Source.Attachment
import ResourceRoutes.Proofs.Source.TypeForms
set_option autoImplicit false

namespace ResourceRoutes.Source

inductive HandlerTypes (names : TypeNames) : List TypeExpr → Nat → Prop where
  | withContext (context writer request : TypeExpr) (by_value : InParens (PathTo names.contextName) context)
      (behind_mut : InParens (WriterReference names.writerName) writer)
      (held : InParens (RequestHolder names.requestName) request) : HandlerTypes names [context, writer, request] 3
  | withoutContext (writer request : TypeExpr) (behind_mut : InParens (WriterReference names.writerName) writer)
      (held : InParens (RequestHolder names.requestName) request) : HandlerTypes names [writer, request] 2

inductive ReturnsNothing : Option TypeExpr → Prop where
  | absent : ReturnsNothing none
  | unit (t : TypeExpr) (fits : InParens UnitType t) : ReturnsNothing (some t)

-- Parameters and return type are those of a handler. Any further receiver among the parameters is none of its types.
def DeclaresHandler (names : TypeNames) (params : List Param) (output : Option TypeExpr) (count : Nat) : Prop :=
  ReturnsNothing output ∧ ∃ types, params = types.map .typed ∧ HandlerTypes names types count

theorem handler_types_count (names : TypeNames) (types : List TypeExpr) (count : Nat)
    (fits : HandlerTypes names types count) : count = types.length := by
  cases fits <;> rfl

def Param.kind (names : TypeNames) : Param → ParamKind
  | .receiver trees => .other (shown trees)
  | .typed t => names.classifyParam t

theorem describe_params (names : TypeNames) (header : FunctionHeader) :
    (header.describe names).params = header.params.map (Param.kind names) := by
  refine List.map_congr_left fun p _ => ?_
  cases p <;> rfl

theorem described_valid_iff (names : TypeNames) (header : FunctionHeader) (rule : Rule) :
    (header.describe names).validate rule true = .ok () ↔
      header.params.tail.map (Param.kind names) ∈ Callable.shapes ∧ classifyOutput header.output = rule.returns := by
  rw [Signature.validate_iff, Signature.effectiveParams, if_pos rfl, describe_params, List.drop_one, ← List.map_tail]
  rfl

theorem param_kind_iff (names : TypeNames) (p : Param) (kind : ParamKind) (tagged : ∀ name, kind ≠ .other name) :
    p.kind names = kind ↔ ∃ t, p = .typed t ∧ names.role? t = some kind := by
  cases p with
  | receiver trees => exact ⟨fun same => absurd same.symm (tagged _), nofun⟩
  | typed t =>
    refine (names.classify_iff t kind tagged).trans ⟨fun role => ⟨t, rfl, role⟩, ?_⟩
    rintro ⟨_, ⟨⟩, role⟩
    exact role

theorem returns_nothing_iff (output : Option TypeExpr) : classifyOutput output = [] ↔ ReturnsNothing output := by
  cases output with
  | none => exact ⟨fun _ => .absent, fun _ => rfl⟩
  | some t =>
    have unit_iff : ReturnsNothing (some t) ↔ UnitType t.stripParens := by
      refine Iff.trans ⟨?_, .unit t⟩ (in_parens_iff UnitType nofun t)
      rintro (_ | ⟨_, fits⟩)
      exact fits
    rw [unit_iff, classifyOutput]
    cases t.stripParens with
    | tuple elements trailing =>
      refine List.map_eq_nil_iff.trans ⟨?_, ?_⟩
      · rintro rfl
        exact .mk trailing
      · rintro ⟨⟩
        rfl
    | _ => exact ⟨nofun, nofun⟩

section

variable (names : TypeNames) (context_box : names.contextName ≠ "Box".toList)
  (writer_request : names.writerName ≠ names.requestName)

include context_box writer_request

theorem shapes_iff (params : List Param) :
    params.map (Param.kind names) ∈ Callable.shapes ↔
      ∃ types count, params = types.map .typed ∧ HandlerTypes names types count := by
  have context_iff (p : Param) : p.kind names = .context ↔ ∃ t, p = .typed t ∧ InParens (PathTo names.contextName) t := by
    simp only [param_kind_iff names p .context nofun, names.role_context_iff]
  have writer_iff (p : Param) :
      p.kind names = .responseWriter ↔ ∃ t, p = .typed t ∧ InParens (WriterReference names.writerName) t := by
    simp only [param_kind_iff names p .responseWriter nofun, names.role_writer_iff]
  have request_iff (p : Param) :
      p.kind names = .requestPointer ↔ ∃ t, p = .typed t ∧ InParens (RequestHolder names.requestName) t := by
    simp only [param_kind_iff names p .requestPointer nofun, names.role_request_iff _ context_box writer_request]
  simp only [Callable.shapes, List.mem_cons, List.not_mem_nil, or_false, List.map_eq_cons_iff, List.map_eq_nil_iff,
    context_iff, writer_iff, request_iff]
  constructor
  · rintro (⟨_, _, rfl, ⟨context, rfl, by_value⟩, _, _, rfl, ⟨writer, rfl, behind_mut⟩, _, _, rfl, ⟨request, rfl, held⟩, rfl⟩ |
      ⟨_, _, rfl, ⟨writer, rfl, behind_mut⟩, _, _, rfl, ⟨request, rfl, held⟩, rfl⟩)
    · exact ⟨[context, writer, request], 3, rfl, .withContext context writer request by_value behind_mut held⟩
    · exact ⟨[writer, request], 2, rfl, .withoutContext writer request behind_mut held⟩
  · rintro ⟨_, _, rfl, fits⟩
    cases fits with
    | withContext context writer request by_value behind_mut held =>
      exact .inl ⟨_, _, rfl, ⟨context, rfl, by_value⟩, _, _, rfl, ⟨writer, rfl, behind_mut⟩, _, _, rfl,
        ⟨request, rfl, held⟩, rfl⟩
    | withoutContext writer request behind_mut held =>
      exact .inr ⟨_, _, rfl, ⟨writer, rfl, behind_mut⟩, _, _, rfl, ⟨request, rfl, held⟩, rfl⟩

theorem handler_valid_iff (header : FunctionHeader) :
    (header.describe names).validate .handler true = .ok () ↔
      ∃ count, DeclaresHandler names header.params.tail header.output count := by
  rw [described_valid_iff, shapes_iff names context_box writer_request]
  refine (and_congr_right fun _ => returns_nothing_iff header.output).trans ?_
  constructor
  · rintro ⟨⟨types, count, typed, fits⟩, silent⟩
    exact ⟨count, silent, types, typed, fits⟩
  · rintro ⟨count, silent, types, typed, fits⟩
    exact ⟨⟨types, count, typed, fits⟩, silent⟩

end

structure Recognizes (names : TypeNames) (kind : HandlerKind) (params : List Param) (output : Option TypeExpr)
    (report : Report) : Prop where
  recorded_iff : ∀ count, report.recordsOf kind.name = [⟨kind.name, count⟩] ↔ DeclaresHandler names params output count
  warned : (∀ count, ¬ DeclaresHandler names params output count) →
    report.recordsOf kind.name = [] ∧ ∃ warning, report.warningsOf kind.name = [warning]

theorem described_recognized (names : TypeNames) (context_box : names.contextName ≠ "Box".toList)
    (writer_request : names.writerName ≠ names.requestName) (resource : Resource) (kind : HandlerKind)
    (header : FunctionHeader) (held : resource.descriptor.get? kind.name = some (described names header)) :
    Recognizes names kind header.params.tail header.output (introspect resource.name resource.descriptor) := by
  have valid_iff := handler_valid_iff names context_box writer_request header
  cases handler_settled resource.name resource.descriptor kind with
  | absent missing _ _ => rw [missing] at held; cases held
  | accepted sig found valid taken _ =>
    rw [found] at held
    cases held
    obtain ⟨counted, declared⟩ := valid_iff.mp valid
    have arity (count : Nat) (declares : DeclaresHandler names header.params.tail header.output count) :
        count = (header.describe names).arity - 1 := by
      obtain ⟨-, types, typed, fits⟩ := declares
      rw [handler_types_count names types count fits, Signature.arity, describe_params, List.length_map,
        ← List.length_tail, typed, List.length_map]
    refine ⟨fun count => ?_, fun none_declared => absurd declared (none_declared counted)⟩
    rw [taken.1, List.cons.injEq, HandlerRecord.mk.injEq, and_iff_left rfl, and_iff_right rfl]
    constructor
    · rintro rfl
      rw [← arity counted declared]
      exact declared
    · exact fun declares => (arity count declares).symm
  | rejected callable error found invalid skipped warned =>
    rw [found] at held
    cases held
    have undeclared (count : Nat) : ¬ DeclaresHandler names header.params.tail header.output count := by
      intro declared
      have valid := valid_iff.mpr ⟨count, declared⟩
      rw [show (header.describe names).validate .handler true = .error error from invalid] at valid
      cases valid
    refine ⟨fun count => ?_, fun _ => ⟨skipped, _, warned⟩⟩
    rw [skipped]
    exact iff_of_false nofun (undeclared count)

theorem method_recorded_iff (names : TypeNames) (context_box : names.contextName ≠ "Box".toList)
    (writer_request : names.writerName ≠ names.requestName) (text : String) (items : List Item)
    (parsed : itemsOfText? text.toList = some items) (target : List Char)
    (once : (structureNames items).count target = 1) (kind : HandlerKind) (ofTrait : Bool) (header : FunctionHeader)
    (only : (functionsFor items target).filter (·.2.methodName == kind.name) = [(ofTrait, header)])
    (receiver : List Tree) (params : List Param) (declared : header.params = .receiver receiver :: params) :
    ∃ resources resource, discover? names text = some resources ∧
      resources.filter (·.name == String.ofList target) = [resource] ∧
      Recognizes names kind params header.output (introspect resource.name resource.descriptor) := by
  have attached := attached_only items target kind.name ofTrait header only
  refine ⟨resourcesOfItems names items, ⟨String.ofList target, describeType names items target⟩,
    discover_parsed names text items parsed, resource_declared_once names items target once, ?_⟩
  have recognized := described_recognized names context_box writer_request
    ⟨String.ofList target, describeType names items target⟩ kind header
    (by rw [get_describe_type, attached, Option.map_some])
  rw [declared, List.tail_cons] at recognized
  exact recognized

def shortNames : TypeNames where
  context := "C"
  responseWriter := "m::W"
  request := "R"

def boxedRequest : String := "struct S;impl S{fn put(&self,c:C,w:&mut dyn W,r:Box<R>){}}"

theorem boxed_request_recognized :
    ∃ items ofTrait header receiver params, shortNames.contextName ≠ "Box".toList ∧
      shortNames.writerName ≠ shortNames.requestName ∧ itemsOfText? boxedRequest.toList = some items ∧
      (structureNames items).count "S".toList = 1 ∧
      (functionsFor items "S".toList).filter (·.2.methodName == HandlerKind.put.name) = [(ofTrait, header)] ∧
      header.params = .receiver receiver :: params ∧
      ∃ resources resource, discover? shortNames boxedRequest = some resources ∧
        resources.filter (·.name == String.ofList "S".toList) = [resource] ∧
        Recognizes shortNames .put params header.output (introspect resource.name resource.descriptor) := by
  have read : (itemsOfText? boxedRequest.toList).map (fun items => ((structureNames items).count "S".toList,
        ((functionsFor items "S".toList).filter (·.2.methodName == "Put")).map fun f => f.2.params.map Param.isReceiver)) =
      some (1, [[true, false, false, false]]) := by decide +kernel
  obtain ⟨items, parsed, held⟩ := Option.map_eq_some_iff.mp read
  obtain ⟨once, declared⟩ := Prod.mk.inj held
  obtain ⟨⟨ofTrait, header⟩, only, receivers⟩ := List.map_eq_singleton_iff.mp declared
  obtain ⟨first, params, shape, is_receiver, -⟩ := List.map_eq_cons_iff.mp receivers
  cases first with
  | typed t => cases is_receiver
  | receiver trees =>
    have context_box : shortNames.contextName ≠ "Box".toList := by decide
    have writer_request : shortNames.writerName ≠ shortNames.requestName := by decide
    exact ⟨items, ofTrait, header, trees, params, context_box, writer_request, parsed, once, only, shape,
      method_recorded_iff shortNames context_box writer_request boxedRequest items parsed "S".toList once .put ofTrait
        header only trees params shape⟩

end ResourceRoutes.Source
