import ResourceRoutes.Proofs.Signature.Requirement
import ResourceRoutes.Proofs.Source.Forms
import ResourceRoutes.Proofs.Source.HookRecognition
import ResourceRoutes.Proofs.Source.Namesakes
set_option autoImplicit false

namespace ResourceRoutes.Source

theorem named_chars (name : List Char) (named : Tree.Named (.ident name)) : ' ' ∉ name ∧ '&' ∉ name := by
  have read := named [] stops_nil
  rw [List.append_nil] at read
  have chars := Lexeme.any_ident_chars name name.length read
  rw [List.take_length] at chars
  constructor
  · intro member
    have own := chars _ member
    revert own
    decide
  · intro member
    have own := chars _ member
    revert own
    decide

theorem ink_named (name : List Char) (named : Tree.Named (.ident name)) : inkOf [.ident name] = name := by
  have solid := (named_chars name named).1
  rw [inkOf, Tree.textOfAll, Tree.text, ink, List.filter_eq_self]
  intro c member
  simp only [bne_iff_ne, ne_eq]
  intro blank
  exact solid (blank ▸ member)

structure PlainName (name : List Char) : Prop where
  present : name ≠ []
  unmarked : Unmarked name
  unreferenced : '&' ∉ name
  no_object : ¬ "dyn".toList <+: name
  no_impl : ¬ "impl".toList <+: name

theorem unmarked_path (isGlobal : Bool) (segments : List Segment)
    (unmarked : ¬ Marked (TypeExpr.path isGlobal segments).trees) :
    isGlobal = false ∧ (segments = [] ∨ ∃ name, segments = [.mk name .none]) := by
  rw [TypeExpr.trees, marked_append_iff, not_or] at unmarked
  obtain ⟨at_root, unmarked⟩ := unmarked
  constructor
  · cases isGlobal with
    | false => rfl
    | true => exact absurd (by decide) at_root
  cases segments with
  | nil => exact .inl rfl
  | cons first others =>
    right
    cases others with
    | cons second others =>
      rw [TypeExpr.treesOfPath, marked_append_iff, marked_append_iff] at unmarked
      · exact absurd (.inl (.inr (by decide))) unmarked
      · intro none_left
        cases none_left
    | nil =>
      obtain ⟨name, arguments⟩ := first
      rw [TypeExpr.treesOfPath, TypeExpr.treesOfSegment, marked_cons_iff, not_or] at unmarked
      cases arguments with
      | none => exact ⟨name, rfl⟩
      | angled separated arguments trailing =>
        simp only [TypeExpr.treesOfArguments, marked_append_iff, not_or] at unmarked
        exact absurd (by decide) unmarked.2.2
      | called inputs trailing =>
        exact absurd (marked_group .parens _ (by decide)) unmarked.2
      | returning inputs trailing output =>
        have output_unmarked := unmarked.2
        rw [TypeExpr.treesOfArguments, List.cons_append, marked_cons_iff, not_or] at output_unmarked
        exact absurd (marked_group .parens _ (by decide)) output_unmarked.1

theorem plain_name_shown (t : TypeExpr) (read : t.Read) (name : List Char) (plain : PlainName name)
    (same : inkOf t.trees = name) : t = .path false [.mk name .none] := by
  have unmarked : ¬ Marked t.trees := by
    intro marked
    obtain ⟨c, member, mark⟩ := marked
    exact plain.unmarked c (same ▸ member) mark
  cases read.form with
  | path isGlobal segments named =>
    obtain ⟨rfl, rfl | ⟨own, rfl⟩⟩ := unmarked_path isGlobal segments unmarked
    · exact absurd same.symm plain.present
    · have own_ink : inkOf [.ident own] = own := ink_named own (named _ rfl)
      rw [← same]
      exact congrArg (fun name => TypeExpr.path false [.mk name .none]) own_ink.symm
  | reference lifetime mutable referent named read =>
    have sign : '&' ∈ inkOf (TypeExpr.reference lifetime mutable referent).trees := by
      simp only [TypeExpr.trees, ink_of_append, List.mem_append]
      exact .inl (.inl (.inl (by decide)))
    exact absurd (same ▸ sign) plain.unreferenced
  | dynamic bounds trailing =>
    refine absurd ?_ plain.no_object
    rw [← same, TypeExpr.trees, List.append_assoc, ink_of_append]
    exact List.prefix_append ..
  | implemented bounds trailing =>
    refine absurd ?_ plain.no_impl
    rw [← same, TypeExpr.trees, List.cons_append, ink_of_cons]
    exact List.prefix_append ..
  | apart _ held => exact absurd held.mark unmarked

theorem referenced_name_shown (t : TypeExpr) (read : t.Read) (name : List Char)
    (unmarked_name : Unmarked name) (same : inkOf t.trees = '&' :: name) :
    ∃ mutable referent, t = .reference none mutable referent ∧ referent.Read ∧
      (if mutable then "mut".toList else []) ++ inkOf referent.trees = name := by
  have unmarked : ¬ Marked t.trees := by
    intro marked
    obtain ⟨c, member, mark⟩ := marked
    rw [same, List.mem_cons] at member
    cases member with
    | inl sign =>
      rw [sign] at mark
      revert mark
      decide
    | inr inside => exact unmarked_name c inside mark
  cases read.form with
  | path isGlobal segments named =>
    obtain ⟨rfl, rfl | ⟨own, rfl⟩⟩ := unmarked_path isGlobal segments unmarked
    · cases same
    · have own_ink : inkOf [.ident own] = own := ink_named own (named _ rfl)
      have shown : own = '&' :: name := own_ink.symm.trans same
      have solid := (named_chars own (named _ rfl)).2
      rw [shown] at solid
      exact absurd (List.mem_cons_self ..) solid
  | reference lifetime mutable referent named read_referent =>
    cases lifetime with
    | some tick =>
      refine absurd ?_ unmarked
      rw [TypeExpr.trees, marked_append_iff, marked_append_iff, marked_append_iff]
      exact .inl (.inl (.inr (marked_lifetime tick (named tick rfl))))
    | none =>
      refine ⟨mutable, referent, rfl, read_referent, ?_⟩
      cases mutable with
      | true =>
        simp only [TypeExpr.trees, ink_of_append] at same
        exact (List.cons.inj same).2
      | false =>
        simp only [TypeExpr.trees, ink_of_append] at same
        exact (List.cons.inj same).2
  | dynamic bounds trailing =>
    rw [TypeExpr.trees, List.append_assoc, ink_of_append] at same
    cases same
  | implemented bounds trailing =>
    rw [TypeExpr.trees, List.cons_append, ink_of_cons] at same
    cases same
  | apart _ held => exact absurd held.mark unmarked

instance (name : List Char) : Decidable (PlainName name) :=
  decidable_of_iff
    (name ≠ [] ∧ Unmarked name ∧ '&' ∉ name ∧ ¬ "dyn".toList <+: name ∧ ¬ "impl".toList <+: name)
    ⟨fun ⟨a, b, c, d, e⟩ => ⟨a, b, c, d, e⟩, fun ⟨a, b, c, d, e⟩ => ⟨a, b, c, d, e⟩⟩

def fixedType : Slot → TypeExpr
  | .context => .path false [.mk "RoutingContext".toList .none]
  | .writer => .reference none true (.path false [.mk "ResponseWriter".toList .none])
  | .request => .reference none false (.path false [.mk "Request".toList .none])

def TypeNames.Unfixed (names : TypeNames) : Slot → Prop
  | .context => names.contextName ≠ "RoutingContext".toList
  | .writer => names.writerName ≠ "ResponseWriter".toList ∧ names.requestName ≠ "ResponseWriter".toList
  | .request => names.requestName ≠ "Request".toList

theorem ink_of_display (t : TypeExpr) (name : String) (same : t.display = name) : inkOf t.trees = ink name.toList := by
  rw [← same]
  exact (ink_shown t.trees).symm

theorem display_bool_iff (t : TypeExpr) (read : t.Read) :
    t.display = "bool" ↔ t = .path false [.mk "bool".toList .none] := by
  constructor
  · intro same
    exact plain_name_shown t read "bool".toList (by decide) (ink_of_display t "bool" same)
  · intro same
    rw [same]
    decide

theorem display_fixed_iff (slot : Slot) (t : TypeExpr) (read : t.Read) :
    t.display = slot.typeName ↔ t = fixedType slot := by
  constructor
  · intro same
    have inked := ink_of_display t slot.typeName same
    cases slot with
    | context => exact plain_name_shown t read _ (by decide) inked
    | writer =>
      obtain ⟨mutable, referent, rfl, read_referent, shown⟩ :=
        referenced_name_shown t read "mutResponseWriter".toList (by decide) inked
      cases mutable with
      | true =>
        have target := plain_name_shown referent read_referent "ResponseWriter".toList (by decide)
          (List.append_cancel_left shown)
        rw [target]
        rfl
      | false =>
        have target := plain_name_shown referent read_referent "mutResponseWriter".toList (by decide) shown
        rw [target] at same
        exact absurd same (by decide)
    | request =>
      obtain ⟨mutable, referent, rfl, read_referent, shown⟩ :=
        referenced_name_shown t read "Request".toList (by decide) inked
      cases mutable with
      | true => cases shown
      | false =>
        have target := plain_name_shown referent read_referent "Request".toList (by decide) shown
        rw [target]
        rfl
  · intro same
    rw [same]
    cases slot <;> decide

theorem ends_in_single_iff (own name : List Char) : endsIn [.mk own .none] name = true ↔ name = own := by
  rw [endsIn, List.getLast?_singleton, Option.any_some, Segment.name, beq_iff_eq]
  exact eq_comm

theorem choice_none_iff {α : Type} (c : Prop) [Decidable c] (a : α) (o : Option α) :
    (if c then some a else o) = none ↔ ¬ c ∧ o = none := by
  by_cases holds : c <;> simp [holds]

theorem fixed_type_without_role_iff (names : TypeNames) (slot : Slot) :
    names.role? (fixedType slot) = none ↔ names.Unfixed slot := by
  cases slot with
  | context =>
    have no_box : names.isBoxedRequest [.mk "RoutingContext".toList .none] = false := rfl
    simp only [fixedType, TypeNames.role?, TypeExpr.stripParens, choice_none_iff, ends_in_single_iff, no_box,
      Bool.false_eq_true, not_false_eq_true, and_true, TypeNames.Unfixed, ne_eq]
  | writer =>
    simp only [fixedType, TypeNames.role?, TypeExpr.stripParens, TypeExpr.namesTypeOrTrait, TypeExpr.isNamed,
      Bool.true_and, choice_none_iff, ends_in_single_iff, and_true, TypeNames.Unfixed, ne_eq]
  | request =>
    simp only [fixedType, TypeNames.role?, TypeExpr.stripParens, TypeExpr.isNamed, Bool.false_and,
      Bool.false_eq_true, if_false, choice_none_iff, ends_in_single_iff, and_true, TypeNames.Unfixed, ne_eq]

theorem refused_under_own_name_iff (names : TypeNames) (slot : Slot) (t : TypeExpr) (read : t.Read) :
    (names.classifyParam t ≠ slot.kind ∧ (names.classifyParam t).displayName = slot.typeName) ↔
      t = fixedType slot ∧ names.Unfixed slot := by
  constructor
  · intro taken
    obtain ⟨refused, same⟩ := taken
    rw [TypeNames.classifyParam] at refused same
    cases role : names.role? t with
    | some kind =>
      -- names of roles differ from each other
      rw [role, Option.getD_some] at refused same
      obtain ⟨rfl, -⟩ | ⟨rfl, -⟩ | ⟨rfl, -⟩ := names.role_cases t kind role <;> cases slot <;>
        first | exact absurd rfl refused | exact absurd same (by decide)
    | none =>
      rw [role, Option.getD_none] at same
      have fixed := (display_fixed_iff slot t read).mp same
      rw [fixed] at role
      exact ⟨fixed, (fixed_type_without_role_iff names slot).mp role⟩
  · intro taken
    obtain ⟨fixed, unfixed⟩ := taken
    have no_role := (fixed_type_without_role_iff names slot).mpr unfixed
    rw [fixed, TypeNames.classifyParam, no_role, Option.getD_none]
    refine ⟨?_, (display_fixed_iff slot _ (fixed ▸ read)).mpr rfl⟩
    intro same
    cases slot <;> cases same

theorem refused_return_named_otherwise (output : Option TypeExpr) (read : ∀ t ∈ output, t.Read) (name : String)
    (single : classifyOutput output = [.other name]) : name ≠ "bool" := by
  have told (t : TypeExpr) (read : t.Read) (other : classifyReturn t = .other name) : name ≠ "bool" := by
    rw [classifyReturn] at other
    split at other
    · cases other
    · rename_i no_bool
      cases other
      intro same
      rw [(display_bool_iff t read).mp same] at no_bool
      exact absurd (by decide) no_bool
  cases output with
  | none => cases single
  | some t =>
    have read_type := read t rfl
    rw [classifyOutput] at single
    split at single
    · rename_i elements trailing shape
      obtain ⟨element, rfl, other⟩ := List.map_eq_singleton_iff.mp single
      exact told element (read_type.form.elements_read _ trailing shape element (List.mem_singleton_self element)) other
    · exact told t read_type (List.cons.inj single).1

end ResourceRoutes.Source

namespace ResourceRoutes

def SignatureError.NamesTwice : SignatureError → Prop
  | .wrongReturnType expected actual => expected = actual
  | .wrongParamType _ slot actual => slot.typeName = actual
  | _ => False

namespace Source

theorem discovered_attached (names : TypeNames) (items : List Item) (resource : Resource)
    (listed : resource ∈ resourcesOfItems names items) (method : String) (callable : Callable)
    (held : resource.descriptor.get? method = some callable) :
    ∃ target header, resource.name = String.ofList target ∧ attached? items target method = some header ∧
      callable = described names header := by
  obtain ⟨place, found⟩ := List.mem_iff_getElem?.mp listed
  obtain ⟨target, -, rfl⟩ := resource_declared_at names items place resource found
  dsimp only at held
  split at held
  · cases held
  · rw [get_describe_type] at held
    obtain ⟨header, attached, rfl⟩ := Option.map_eq_some_iff.mp held
    exact ⟨target, header, rfl, attached, rfl⟩

theorem names_twice_iff (names : TypeNames) (header : FunctionHeader) (read : header.Read) (rule : Rule)
    (error : SignatureError) (failed : (described names header).validate rule true = .error error) :
    error.NamesTwice ↔ ∃ position slot actual, error = .wrongParamType position slot actual ∧
      header.params[position]? = some (.typed (fixedType slot)) ∧ names.Unfixed slot := by
  obtain ⟨_, requirement, _, -, broken, -⟩ := ((described names header).validate_error_iff rule true error).mp failed
  have other_error (unnamed : ¬ error.NamesTwice)
      (other : ∀ position slot actual, error ≠ .wrongParamType position slot actual) :
      error.NamesTwice ↔ ∃ position slot actual, error = .wrongParamType position slot actual ∧
        header.params[position]? = some (.typed (fixedType slot)) ∧ names.Unfixed slot := by
    apply iff_of_false unnamed
    intro named
    obtain ⟨position, slot, actual, same, -⟩ := named
    exact other position slot actual same
  -- only the text of a type can be the name of what a slot asks for
  cases broken with
  | function typeName held => cases held
  | returnArity sig held differs => exact other_error id fun _ _ _ same => by cases same
  | count sig held other => exact other_error id fun _ _ _ same => by cases same
  | returnType sig held name asked single =>
    cases held
    have told := refused_return_named_otherwise header.output read.output name single
    exact other_error (fun same => told same.symm) fun _ _ _ same => by cases same
  | slot sig held index slot param expected found differs =>
    cases held
    rw [Signature.effectiveParams, if_pos rfl, describe_params, List.getElem?_drop, List.getElem?_map] at found
    obtain ⟨p, declared, rfl⟩ := Option.map_eq_some_iff.mp found
    have behind_first : p ∈ header.params.drop 1 := by
      refine List.mem_of_getElem? (i := index) ?_
      rw [List.getElem?_drop, declared]
    have typed := read.typed p behind_first
    cases p with
    | receiver trees => cases typed
    | typed t =>
      have read_type : t.Read := read.params _ (List.mem_of_getElem? declared)
      have told := refused_under_own_name_iff names slot t read_type
      constructor
      · intro same
        obtain ⟨fixed, unfixed⟩ := told.mp ⟨differs, same.symm⟩
        refine ⟨index + 1, slot, _, rfl, ?_, unfixed⟩
        rw [Nat.add_comm, declared, fixed]
      · intro own_type
        obtain ⟨position, asked, actual, same, own, unfixed⟩ := own_type
        cases same
        rw [Nat.add_comm, declared] at own
        cases own
        exact (told.mpr ⟨rfl, unfixed⟩).2.symm

theorem expected_name_repeated_iff (names : TypeNames) (text : String) (resources : List Resource)
    (found : discover? names text = some resources) (resource : Resource) (listed : resource ∈ resources)
    (method : String) (callable : Callable) (held : resource.descriptor.get? method = some callable) :
    ∃ items target header, itemsOfText? text.toList = some items ∧ resource.name = String.ofList target ∧
      attached? items target method = some header ∧ callable = described names header ∧
      ∀ rule error, callable.validate rule true = .error error →
        (error.NamesTwice ↔ ∃ position slot actual, error = .wrongParamType position slot actual ∧
          header.params[position]? = some (.typed (fixedType slot)) ∧ names.Unfixed slot) := by
  obtain ⟨items, parsed, rfl⟩ := Option.map_eq_some_iff.mp found
  obtain ⟨target, header, named, attached, rfl⟩ := discovered_attached names items resource listed method callable held
  refine ⟨items, target, header, parsed, named, attached, rfl, ?_⟩
  intro rule error failed
  have read := attached_read text.toList items parsed target method header attached
  exact names_twice_iff names header read rule error failed

def missingReference : String := "struct S;impl S{fn put(&self,w:&mut ResponseWriter,r:Request){}}"

def missingReferenceMembers : Descriptor :=
  .ofList [("Put", .function ⟨[.other "&self", .responseWriter, .other "Request"], []⟩)]

theorem missing_reference_told_apart :
    discover? {} missingReference = some [⟨"S", missingReferenceMembers⟩] ∧
      ∃ callable error, missingReferenceMembers.get? "Put" = some callable ∧
        callable.validate .handler true = .error error ∧ ¬ error.NamesTwice := by
  have found : discover? {} missingReference = some [⟨"S", missingReferenceMembers⟩] := by decide +kernel
  refine ⟨found, _, .wrongParamType 2 .request "Request", rfl, rfl, ?_⟩
  obtain ⟨items, target, header, -, -, -, -, repeated_iff⟩ :=
    expected_name_repeated_iff {} missingReference _ found _ (List.mem_singleton_self _) "Put" _ rfl
  intro repeated
  obtain ⟨position, slot, actual, -, -, unfixed⟩ := (repeated_iff .handler _ rfl).mp repeated
  cases slot with
  | context => exact absurd (by decide) unfixed
  | writer => exact absurd (by decide) unfixed.1
  | request => exact absurd (by decide) unfixed

def spelledOut : String := "struct S;impl S{fn put(&self,c:RoutingContext,w:&mut ResponseWriter,r:&Request){}}"

def spelledOutMembers : Descriptor :=
  .ofList [("Put", .function ⟨[.other "&self", .other "RoutingContext", .responseWriter, .requestPointer], []⟩)]

theorem fixed_context_name_repeated :
    discover? { context := "Ctx" } spelledOut = some [⟨"S", spelledOutMembers⟩] ∧
      ∃ callable error, spelledOutMembers.get? "Put" = some callable ∧
        callable.validate .handler true = .error error ∧ error.NamesTwice := by
  refine ⟨by decide +kernel, _, .wrongParamType 1 .context "RoutingContext", rfl, rfl, ?_⟩
  exact rfl

end Source

end ResourceRoutes
