import ResourceRoutes.Proofs.Source.Attachment
set_option autoImplicit false

/- Discovery knows a structure by its name alone. -/
namespace ResourceRoutes.Source

theorem resources_of_names (names : TypeNames) (items : List Item) (before structures : List (List Char)) :
    (resourcesOf names items before structures).map (·.name) = structures.map String.ofList := by
  induction structures generalizing before with
  | nil => rfl
  | cons name rest ih => rw [resourcesOf, List.map_cons, ih, List.map_cons]

theorem resources_of_at (names : TypeNames) (items : List Item) (before structures : List (List Char)) (place : Nat)
    (target : List Char) (declared : structures[place]? = some target) :
    (resourcesOf names items before structures)[place]? = some ⟨String.ofList target,
      if target ∈ before ∨ target ∈ structures.take place then Descriptor.empty else describeType names items target⟩ := by
  induction structures generalizing before place with
  | nil => cases declared
  | cons name rest ih =>
    cases place with
    | zero =>
      cases declared
      simp [resourcesOf]
    | succ place =>
      have moved : (target ∈ name :: before ∨ target ∈ rest.take place) ↔
          (target ∈ before ∨ target ∈ (name :: rest).take (place + 1)) := by
        rw [List.take_succ_cons, List.mem_cons, List.mem_cons, or_assoc, or_left_comm]
      rw [resourcesOf, List.getElem?_cons_succ, ih (name :: before) place declared]
      simp only [moved]

theorem resource_at (names : TypeNames) (items : List Item) (place : Nat) (target : List Char)
    (declared : (structureNames items)[place]? = some target) :
    (resourcesOfItems names items)[place]? = some ⟨String.ofList target,
      if target ∈ (structureNames items).take place then Descriptor.empty else describeType names items target⟩ := by
  rw [resourcesOfItems, resources_of_at names items [] (structureNames items) place target declared]
  simp

theorem resource_declared_at (names : TypeNames) (items : List Item) (place : Nat) (resource : Resource)
    (found : (resourcesOfItems names items)[place]? = some resource) :
    ∃ target, (structureNames items)[place]? = some target ∧ resource = ⟨String.ofList target,
      if target ∈ (structureNames items).take place then Descriptor.empty else describeType names items target⟩ := by
  have named : (structureNames items).map String.ofList = (resourcesOfItems names items).map (·.name) :=
    (resources_of_names names items [] _).symm
  have declared := congrArg (·[place]?) named
  simp only [List.getElem?_map, found, Option.map_some, Option.map_eq_some_iff] at declared
  obtain ⟨target, declared, -⟩ := declared
  rw [resource_at names items place target declared] at found
  exact ⟨target, declared, (Option.some.inj found).symm⟩

def Unattached (items : List Item) (target : List Char) : Prop :=
  ∀ block header, .implementation block ∈ items → block.Targets target → .function header ∉ block.members

theorem describe_type_empty_iff (names : TypeNames) (items : List Item) (target : List Char) :
    describeType names items target = Descriptor.empty ↔ Unattached items target := by
  constructor
  · intro nothing block header listed targets member
    have held := (attached_iff items target header.methodName).mpr ⟨block, header, listed, targets, member, rfl⟩
    have missing := get_describe_type names items target header.methodName
    rw [nothing, Descriptor.get_empty, eq_comm, Option.map_eq_none_iff] at missing
    rw [missing] at held
    cases held
  · intro unattached
    refine Descriptor.eq_of_get fun method => ?_
    rw [get_describe_type, Descriptor.get_empty]
    cases held : attached? items target method with
    | none => rfl
    | some found =>
      obtain ⟨block, header, listed, targets, member, -⟩ :=
        (attached_iff items target method).mp (by rw [held, Option.isSome_some])
      exact absurd member (unattached block header listed targets)

structure Redeclared (names : TypeNames) (items : List Item) (target : List Char) (earlier : List (List Char))
    (first second : Resource) : Prop where
  first_described : target ∉ earlier → Describes names items target first
  second_empty : second.descriptor = Descriptor.empty
  agree_iff : first.descriptor = second.descriptor ↔ target ∈ earlier ∨ Unattached items target

theorem redeclared_structures (names : TypeNames) (text : String) (items : List Item)
    (parsed : itemsOfText? text.toList = some items) (place later : Nat) (order : place < later) (target : List Char)
    (declared : (structureNames items)[place]? = some target) (again : (structureNames items)[later]? = some target) :
    ∃ resources first second, discover? names text = some resources ∧
      resources.map (·.name) = (structureNames items).map String.ofList ∧
      resources[place]? = some first ∧ resources[later]? = some second ∧
      Redeclared names items target ((structureNames items).take place) first second := by
  have repeated : target ∈ (structureNames items).take later :=
    List.mem_of_getElem? ((List.getElem?_take_of_lt order).trans declared)
  have first := resource_at names items place target declared
  have second := resource_at names items later target again
  rw [if_pos repeated] at second
  refine ⟨_, _, _, discover_parsed names text items parsed, resources_of_names names items [] _, first, second, ?_⟩
  by_cases earlier : target ∈ (structureNames items).take place
  · rw [if_pos earlier]
    exact ⟨absurd earlier, rfl, iff_of_true rfl (.inl earlier)⟩
  · rw [if_neg earlier]
    refine ⟨fun _ => describes_structure names items target, rfl, ?_⟩
    rw [describe_type_empty_iff, or_iff_right earlier]

def declaredThrice : String := "struct S;struct S;impl S{fn f(){}}struct S;"

theorem later_declarations_agree :
    ∃ items, itemsOfText? declaredThrice.toList = some items ∧ 1 < 2 ∧
      (structureNames items)[1]? = some "S".toList ∧ (structureNames items)[2]? = some "S".toList ∧
      ∃ resources first second, discover? {} declaredThrice = some resources ∧
        resources.map (·.name) = (structureNames items).map String.ofList ∧
        resources[1]? = some first ∧ resources[2]? = some second ∧
        Redeclared {} items "S".toList ((structureNames items).take 1) first second := by
  have read : (itemsOfText? declaredThrice.toList).map structureNames = some ["S".toList, "S".toList, "S".toList] := by
    decide +kernel
  obtain ⟨items, parsed, structures⟩ := Option.map_eq_some_iff.mp read
  have declared : (structureNames items)[1]? = some "S".toList := by rw [structures]; rfl
  have again : (structureNames items)[2]? = some "S".toList := by rw [structures]; rfl
  exact ⟨items, parsed, by decide, declared, again,
    redeclared_structures {} declaredThrice items parsed 1 2 (by decide) "S".toList declared again⟩

def declaredTwice : String := "#[cfg(a)]struct S;#[cfg(not(a))]struct S;impl S{fn put(&self){}}"

theorem second_declaration_without_functions :
    ∃ first second : Resource, discover? {} declaredTwice = some [first, second] ∧ first.name = second.name ∧
      first.descriptor ≠ second.descriptor :=
  ⟨⟨"S", .ofList [("Put", .function ⟨[.other "&self"], []⟩)]⟩, ⟨"S", Descriptor.empty⟩, by decide +kernel, rfl,
    by decide⟩

def Implementation.functionsCalled (block : Implementation) (method : String) : List FunctionHeader :=
  (block.members.filterMap Member.header?).filter (·.methodName == method)

def Implementation.offered? (block : Implementation) (method : String) : Option FunctionHeader :=
  if block.ofTrait then (block.functionsCalled method).head? else (block.functionsCalled method).getLast?

def HasFunction (items : List Item) (target : List Char) (ofTrait : Bool) (method : String) : Prop :=
  ∃ block header, .implementation block ∈ items ∧ block.Targets target ∧ .function header ∈ block.members ∧
    header.methodName = method ∧ block.ofTrait = ofTrait

-- The rest of the file has a function under the name that goes before those of a block between the two parts: a later
-- inherent one, or for a block of a trait any inherent one or an earlier one of a trait.
inductive Outranked (before after : List Item) (target : List Char) (method : String) : Bool → Prop where
  | replaced (inherent : HasFunction after target false method) : Outranked before after target method false
  | shadowed (inherent : HasFunction (before ++ after) target false method) : Outranked before after target method true
  | preceded (earlier : HasFunction before target true method) : Outranked before after target method true

theorem has_function_iff (items : List Item) (target : List Char) (ofTrait : Bool) (method : String) :
    HasFunction items target ofTrait method ↔ functionsNamed (functionsFor items target) ofTrait method ≠ [] := by
  rw [functions_named_present]
  simp only [mem_functions_for]
  constructor
  · intro held
    obtain ⟨block, header, listed, targets, member, own, sort⟩ := held
    exact ⟨header, ⟨block, listed, targets, member, sort⟩, own⟩
  · intro listed_under
    obtain ⟨header, ⟨block, listed, targets, member, sort⟩, own⟩ := listed_under
    exact ⟨block, header, listed, targets, member, own, sort⟩

def outranking? (before after : List Item) (target : List Char) (method : String) : Bool → Option FunctionHeader
  | false => (functionsNamed (functionsFor after target) false method).getLast?
  | true => (functionsNamed (functionsFor (before ++ after) target) false method).getLast?.or
      (functionsNamed (functionsFor before target) true method).head?

theorem outranked_iff (before after : List Item) (target : List Char) (method : String) (ofTrait : Bool) :
    Outranked before after target method ofTrait ↔ (outranking? before after target method ofTrait).isSome = true := by
  cases ofTrait with
  | false =>
    rw [outranking?, List.getLast?_isSome, ← has_function_iff]
    constructor
    · intro outranked
      cases outranked with
      | replaced inherent => exact inherent
    · exact .replaced
  | true =>
    rw [outranking?, Option.isSome_or, Bool.or_eq_true, List.getLast?_isSome, List.isSome_head?, ← has_function_iff,
      ← has_function_iff]
    constructor
    · intro outranked
      cases outranked with
      | shadowed inherent => exact .inl inherent
      | preceded earlier => exact .inr earlier
    · intro found
      cases found with
      | inl inherent => exact .shadowed inherent
      | inr earlier => exact .preceded earlier

theorem functions_of_called (target : List Char) (block : Implementation) (targets : block.Targets target)
    (ofTrait : Bool) (method : String) :
    functionsNamed (functionsOf target block) ofTrait method =
      if block.ofTrait = ofTrait then block.functionsCalled method else [] := by
  rw [functionsOf, if_pos ((target_name_iff block target).mpr targets), functionsNamed, List.filter_map, List.map_map]
  by_cases own : block.ofTrait = ofTrait <;> simp [own, Implementation.functionsCalled, Function.comp_def]

section

variable (before after : List Item) (block : Implementation) (target : List Char) (targets : block.Targets target)
  (method : String)

theorem attached_outranking (ofTrait : Bool) (header : FunctionHeader)
    (outranks : outranking? before after target method ofTrait = some header) :
    attached? (before ++ after) target method = some header := by
  cases ofTrait with
  | false =>
    rw [outranking?] at outranks
    simp [attached?, functions_for_append, functions_named_append, List.getLast?_append, outranks]
  | true =>
    rw [attached?, functions_for_append, functions_named_append _ _ true, List.head?_append, ← Option.or_assoc]
    rw [outranking?, functions_for_append] at outranks
    rw [outranks, Option.some_or]

include targets

theorem attached_with_block :
    attached? (before ++ .implementation block :: after) target method =
      (outranking? before after target method block.ofTrait).or
        ((block.offered? method).or (attached? (before ++ after) target method)) := by
  simp only [attached?, functions_for_append, functions_for_block, functions_named_append,
    functions_of_called target block targets, List.getLast?_append, List.head?_append]
  -- Both sides ask for the same functions in the same order; what outranks the block is asked for twice on the right.
  cases sort : block.ofTrait with
  | false =>
    simp only [outranking?, Implementation.offered?, sort, if_true, if_false, reduceCtorEq, List.head?_nil,
      Option.none_or]
    cases (functionsNamed (functionsFor after target) false method).getLast? <;> simp [Option.or_assoc]
  | true =>
    simp only [outranking?, Implementation.offered?, sort, if_true, if_false, reduceCtorEq, List.getLast?_nil,
      functions_for_append, functions_named_append, List.getLast?_append]
    cases (functionsNamed (functionsFor after target) false method).getLast? <;>
      cases (functionsNamed (functionsFor before target) false method).getLast? <;>
        cases (functionsNamed (functionsFor before target) true method).head? <;> simp

theorem described_with_block_iff (names : TypeNames) :
    describeType names (before ++ .implementation block :: after) target = describeType names (before ++ after) target ↔
      ∀ method header, block.offered? method = some header →
        Outranked before after target method block.ofTrait ∨
          (attached? (before ++ after) target method).map (described names) = some (described names header) := by
  constructor
  · intro same method header offered
    have held := congrArg (Descriptor.get? · method) same
    simp only [get_describe_type, attached_with_block before after block target targets, offered] at held
    cases found : outranking? before after target method block.ofTrait with
    | some other => exact .inl ((outranked_iff ..).mpr (by rw [found, Option.isSome_some]))
    | none =>
      rw [found] at held
      exact .inr held.symm
  · intro kept
    refine Descriptor.eq_of_get fun method => ?_
    rw [get_describe_type, get_describe_type, attached_with_block before after block target targets]
    cases found : outranking? before after target method block.ofTrait with
    | some other => rw [attached_outranking before after target method block.ofTrait other found, Option.some_or]
    | none =>
      cases offered : block.offered? method with
      | none => rfl
      | some header =>
        cases kept method header offered with
        | inl outranked =>
          rw [outranked_iff, found] at outranked
          cases outranked
        | inr same =>
          rw [same]
          rfl

end

theorem namesake_block_ignored_iff (names : TypeNames) (text edited : String) (before after : List Item)
    (block : Implementation) (parsed : itemsOfText? text.toList = some (before ++ after))
    (reparsed : itemsOfText? edited.toList = some (before ++ .implementation block :: after)) (target : List Char)
    (declared : target ∈ structureNames (before ++ after)) (isGlobal : Bool) (leading : List Segment)
    (arguments : Arguments) (path : block.target = .path isGlobal (leading ++ [.mk target arguments])) :
    ∃ resources others resource other, discover? names text = some resources ∧ discover? names edited = some others ∧
      resources.find? (·.name == String.ofList target) = some resource ∧
      others.find? (·.name == String.ofList target) = some other ∧
      (other.descriptor = resource.descriptor ↔
        ∀ method header, block.offered? method = some header →
          Outranked before after target method block.ofTrait ∨
            resource.descriptor.get? method = some (described names header)) := by
  have still_declared : target ∈ structureNames (before ++ .implementation block :: after) := by
    rw [structure_names_append] at declared ⊢
    exact declared
  refine ⟨_, _, _, _, discover_parsed names text _ parsed, discover_parsed names edited _ reparsed,
    resource_declared names _ target declared, resource_declared names _ target still_declared, ?_⟩
  rw [described_with_block_iff before after block target ⟨isGlobal, leading, arguments, path⟩ names]
  simp only [get_describe_type]

def plainFile? : List Item → Option (List (List Char))
  | [.structure outer, .module name [.structure inner], .implementation ⟨.path false [.mk target .none], false,
      [.function ⟨method, [], false, none⟩]⟩] => some [outer, name, inner, target, method]
  | _ => none

theorem plain_file (items : List Item) (outer name inner target method : List Char)
    (told : plainFile? items = some [outer, name, inner, target, method]) :
    items = [.structure outer, .module name [.structure inner], .implementation ⟨.path false [.mk target .none], false,
      [.function ⟨method, [], false, none⟩]⟩] := by
  rw [plainFile?.eq_def] at told
  split at told
  · cases told
    rfl
  · cases told

def innerTarget? : Item → Option (List Char × List Char)
  | .implementation ⟨.path false [.mk module .none, .mk name _], _, _⟩ => some (module, name)
  | _ => none

theorem inner_target (item : Item) (module name : List Char) (told : innerTarget? item = some (module, name)) :
    ∃ block arguments, item = .implementation block ∧
      block.target = .path false ([.mk module .none] ++ [.mk name arguments]) := by
  rw [innerTarget?.eq_def] at told
  split at told
  · cases told
    exact ⟨_, _, rfl, rfl⟩
  · cases told

def ownFunction : String := "struct S;mod m{pub struct S;}impl S{fn put(){}}"

def shadowedFunction : String := ownFunction ++ "impl T for m::S{fn put(self){}}"

theorem shadowed_namesake_block_ignored :
    ∃ before after block arguments, itemsOfText? ownFunction.toList = some (before ++ after) ∧
      itemsOfText? shadowedFunction.toList = some (before ++ .implementation block :: after) ∧
      "S".toList ∈ structureNames (before ++ after) ∧
      block.target = .path false ([.mk "m".toList .none] ++ [.mk "S".toList arguments]) ∧
      ∃ resources others resource other, discover? {} ownFunction = some resources ∧
        discover? {} shadowedFunction = some others ∧
        resources.find? (·.name == String.ofList "S".toList) = some resource ∧
        others.find? (·.name == String.ofList "S".toList) = some other ∧
        (other.descriptor = resource.descriptor ↔
          ∀ method header, block.offered? method = some header →
            Outranked before after "S".toList method block.ofTrait ∨
              resource.descriptor.get? method = some (described {} header)) := by
  have read : (itemsOfText? ownFunction.toList).bind plainFile? =
      some ["S".toList, "m".toList, "S".toList, "S".toList, "put".toList] := by decide +kernel
  have reread : (itemsOfText? shadowedFunction.toList).map (fun items => (plainFile? (items.take 3),
      (items.drop 3).map innerTarget?)) = some (some ["S".toList, "m".toList, "S".toList, "S".toList, "put".toList],
        [some ("m".toList, "S".toList)]) := by decide +kernel
  obtain ⟨items, parsed, told⟩ := Option.bind_eq_some_iff.mp read
  obtain ⟨others, reparsed, held⟩ := Option.map_eq_some_iff.mp reread
  obtain ⟨retold, added⟩ := Prod.mk.inj held
  obtain ⟨item, last, names_target⟩ := List.map_eq_singleton_iff.mp added
  have extended : others = items ++ [item] := by
    rw [← List.take_append_drop 3 others, last, plain_file _ _ _ _ _ _ retold, plain_file _ _ _ _ _ _ told]
  obtain ⟨block, arguments, rfl, path⟩ := inner_target item _ _ names_target
  have declared : "S".toList ∈ structureNames (items ++ []) := by
    rw [plain_file _ _ _ _ _ _ told]
    decide
  rw [← List.append_nil items] at parsed
  rw [extended] at reparsed
  exact ⟨items, [], block, arguments, parsed, reparsed, declared, path,
    namesake_block_ignored_iff {} ownFunction shadowedFunction items [] block parsed reparsed "S".toList declared false
      [.mk "m".toList .none] arguments path⟩

theorem namesake_block_replaces_function :
    discover? {} ownFunction = some [⟨"S", .ofList [("Put", .function ⟨[], []⟩)]⟩] ∧
      discover? {} (ownFunction ++ "impl m::S{fn put(self){}}") =
        some [⟨"S", .ofList [("Put", .function ⟨[.other "self"], []⟩)]⟩] := by
  decide +kernel

end ResourceRoutes.Source
