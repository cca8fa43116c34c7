import Mathlib.Logic.Relation
import ResourceRoutes.Proofs.Resource.Members
import ResourceRoutes.Source.Discovery
set_option autoImplicit false

/- Inherent functions go before those of traits, wherever their blocks stand. -/
namespace ResourceRoutes.Source

def functionsOf (target : List Char) (block : Implementation) : List (Bool × FunctionHeader) :=
  if block.targetName? = some target then
    (block.members.filterMap Member.header?).map fun header => (block.ofTrait, header)
  else []

def functionsFor (items : List Item) (target : List Char) : List (Bool × FunctionHeader) :=
  (implementations items).flatMap (functionsOf target)

def functionsNamed (functions : List (Bool × FunctionHeader)) (ofTrait : Bool) (method : String) :
    List FunctionHeader :=
  (functions.filter fun f => f.1 == ofTrait && f.2.methodName == method).map (·.2)

def attached? (items : List Item) (target : List Char) (method : String) : Option FunctionHeader :=
  (functionsNamed (functionsFor items target) false method).getLast?.or
    (functionsNamed (functionsFor items target) true method).head?

def described (names : TypeNames) (header : FunctionHeader) : Callable := .function (header.describe names)

theorem functions_named_cons (f : Bool × FunctionHeader) (rest : List (Bool × FunctionHeader)) (ofTrait : Bool)
    (method : String) :
    functionsNamed (f :: rest) ofTrait method =
      if f.1 = ofTrait ∧ f.2.methodName = method then f.2 :: functionsNamed rest ofTrait method
      else functionsNamed rest ofTrait method := by
  by_cases own : f.1 = ofTrait ∧ f.2.methodName = method
  · simp [functionsNamed, own]
  · rw [if_neg own, functionsNamed, List.filter_cons_of_neg (by simpa using own), functionsNamed]

theorem functions_named_append (a b : List (Bool × FunctionHeader)) (ofTrait : Bool) (method : String) :
    functionsNamed (a ++ b) ofTrait method = functionsNamed a ofTrait method ++ functionsNamed b ofTrait method := by
  simp [functionsNamed]

theorem get_addFunction (names : TypeNames) (ofTrait : Bool) (d : Descriptor) (header : FunctionHeader)
    (method : String) :
    (addFunction names ofTrait d header).get? method =
      if header.methodName = method then
        if ofTrait then (d.get? method).or (some (described names header)) else some (described names header)
      else d.get? method := by
  unfold addFunction
  by_cases own : header.methodName = method
  · subst own
    cases ofTrait with
    | false => simp [described]
    | true => cases held : d.get? header.methodName <;> simp [held, described]
  · have other : ¬ method = header.methodName := fun same => own same.symm
    rw [if_neg own]
    split <;> simp [other]

theorem get_addFunctions (names : TypeNames) (functions : List (Bool × FunctionHeader)) (d : Descriptor)
    (method : String) :
    (functions.foldl (fun d f => addFunction names f.1 d f.2) d).get? method =
      ((functionsNamed functions false method).getLast?.map (described names)).or
        ((d.get? method).or ((functionsNamed functions true method).head?.map (described names))) := by
  -- what `d` holds gives way to inherent functions and keeps out those of traits
  induction functions generalizing d with
  | nil => simp [functionsNamed]
  | cons f rest ih =>
    obtain ⟨ofTrait, header⟩ := f
    rw [List.foldl_cons, ih, get_addFunction, functions_named_cons, functions_named_cons]
    by_cases own : header.methodName = method
    · cases ofTrait with
      | true => simp [own]
      | false =>
        cases later : (functionsNamed rest false method).getLast? <;>
          simp [own, List.getLast?_cons, later]
    · simp [own]

theorem describe_type_functions (names : TypeNames) (items : List Item) (target : List Char) :
    describeType names items target =
      (functionsFor items target).foldl (fun d f => addFunction names f.1 d f.2) Descriptor.empty := by
  rw [functionsFor, List.foldl_flatMap, describeType, List.foldl_filter]
  congr 1
  funext d block
  by_cases targets : block.targetName? = some target
  · simp [functionsOf, targets, addImplementation, List.foldl_map]
  · simp [functionsOf, targets]

theorem get_describe_type (names : TypeNames) (items : List Item) (target : List Char) (method : String) :
    (describeType names items target).get? method = (attached? items target method).map (described names) := by
  rw [describe_type_functions, get_addFunctions, Descriptor.get_empty, Option.none_or, attached?, Option.map_or]

def Implementation.Targets (block : Implementation) (name : List Char) : Prop :=
  ∃ isGlobal leading arguments, block.target = .path isGlobal (leading ++ [.mk name arguments])

theorem target_name_iff (block : Implementation) (name : List Char) :
    block.targetName? = some name ↔ block.Targets name := by
  constructor
  · intro found
    unfold Implementation.targetName? at found
    split at found
    · rename_i isGlobal segments is_path
      obtain ⟨⟨last, arguments⟩, at_end, rfl⟩ := Option.map_eq_some_iff.mp found
      obtain ⟨leading, rfl⟩ := List.getLast?_eq_some_iff.mp at_end
      exact ⟨isGlobal, leading, arguments, is_path⟩
    · cases found
  · rintro ⟨isGlobal, leading, arguments, is_path⟩
    simp [Implementation.targetName?, is_path, Segment.name]

theorem mem_implementations (items : List Item) (block : Implementation) :
    block ∈ implementations items ↔ .implementation block ∈ items := by
  constructor
  · intro member
    obtain ⟨item, listed, taken⟩ := List.mem_filterMap.mp member
    cases item with
    | implementation other => cases taken; exact listed
    | _ => cases taken
  · intro listed
    exact List.mem_filterMap.mpr ⟨.implementation block, listed, rfl⟩

theorem header_eq_iff (member : Member) (header : FunctionHeader) :
    member.header? = some header ↔ member = .function header := by
  cases member <;> simp [Member.header?]

theorem mem_functions_of (target : List Char) (block : Implementation) (ofTrait : Bool) (header : FunctionHeader) :
    (ofTrait, header) ∈ functionsOf target block ↔
      block.Targets target ∧ .function header ∈ block.members ∧ block.ofTrait = ofTrait := by
  rw [← target_name_iff]
  by_cases targets : block.targetName? = some target
  · simp [functionsOf, targets, header_eq_iff, and_comm]
  · simp [functionsOf, targets]

theorem mem_functions_for (items : List Item) (target : List Char) (ofTrait : Bool) (header : FunctionHeader) :
    (ofTrait, header) ∈ functionsFor items target ↔
      ∃ block, .implementation block ∈ items ∧ block.Targets target ∧ .function header ∈ block.members ∧
        block.ofTrait = ofTrait := by
  simp only [functionsFor, List.mem_flatMap, mem_implementations, mem_functions_of]

theorem functions_named_present (functions : List (Bool × FunctionHeader)) (ofTrait : Bool) (method : String) :
    functionsNamed functions ofTrait method ≠ [] ↔ ∃ header, (ofTrait, header) ∈ functions ∧ header.methodName = method := by
  constructor
  · intro present
    obtain ⟨header, member⟩ := List.exists_mem_of_ne_nil _ present
    obtain ⟨⟨sort, _⟩, found, rfl⟩ := List.mem_map.mp member
    obtain ⟨listed, own⟩ := List.mem_filter.mp found
    simp only [Bool.and_eq_true, beq_iff_eq] at own
    exact ⟨_, own.1 ▸ listed, own.2⟩
  · rintro ⟨header, listed, own⟩
    exact List.ne_nil_of_mem (List.mem_map_of_mem (List.mem_filter.mpr ⟨listed, by simp [own]⟩))

theorem attached_iff (items : List Item) (target : List Char) (method : String) :
    (attached? items target method).isSome = true ↔
      ∃ block header, .implementation block ∈ items ∧ block.Targets target ∧ .function header ∈ block.members ∧
        header.methodName = method := by
  have either : (attached? items target method).isSome = true ↔
      functionsNamed (functionsFor items target) false method ≠ [] ∨
        functionsNamed (functionsFor items target) true method ≠ [] := by
    simp [attached?, Option.isSome_or]
  rw [either, functions_named_present, functions_named_present]
  simp only [mem_functions_for]
  constructor
  · rintro (⟨header, ⟨block, listed, targets, member, -⟩, own⟩ | ⟨header, ⟨block, listed, targets, member, -⟩, own⟩)
    · exact ⟨block, header, listed, targets, member, own⟩
    · exact ⟨block, header, listed, targets, member, own⟩
  · rintro ⟨block, header, listed, targets, member, own⟩
    cases sort : block.ofTrait with
    | false => exact .inl ⟨header, ⟨block, listed, targets, member, sort⟩, own⟩
    | true => exact .inr ⟨header, ⟨block, listed, targets, member, sort⟩, own⟩

theorem attached_only (items : List Item) (target : List Char) (method : String) (ofTrait : Bool)
    (header : FunctionHeader)
    (only : (functionsFor items target).filter (·.2.methodName == method) = [(ofTrait, header)]) :
    attached? items target method = some header := by
  have sorted (sort : Bool) : functionsNamed (functionsFor items target) sort method =
      ([(ofTrait, header)].filter (·.1 == sort)).map (·.2) := by
    rw [functionsNamed, ← List.filter_filter, only]
  rw [attached?, sorted, sorted]
  cases ofTrait <;> rfl

theorem resources_of_distinct (names : TypeNames) (items : List Item) (before structures : List (List Char))
    (distinct : structures.Nodup) (fresh : ∀ name ∈ structures, name ∉ before) :
    resourcesOf names items before structures =
      structures.map fun name => ⟨String.ofList name, describeType names items name⟩ := by
  induction structures generalizing before with
  | nil => rfl
  | cons name rest ih =>
    obtain ⟨once, rest_distinct⟩ := List.nodup_cons.mp distinct
    have new : before.contains name = false := by
      simpa using fresh name (List.mem_cons_self ..)
    have rest_fresh : ∀ other ∈ rest, other ∉ name :: before := by
      intro other member listed
      rcases List.mem_cons.mp listed with rfl | earlier
      · exact once member
      · exact fresh other (List.mem_cons_of_mem _ member) earlier
    rw [resourcesOf, new, ih (name :: before) rest_distinct rest_fresh]
    rfl

theorem resources_named (names : TypeNames) (items : List Item) (before structures : List (List Char))
    (target : List Char) :
    (resourcesOf names items before structures).filter (·.name == String.ofList target) =
      if target ∈ before then List.replicate (structures.count target) ⟨String.ofList target, Descriptor.empty⟩
      else if target ∈ structures then
        ⟨String.ofList target, describeType names items target⟩ ::
          List.replicate (structures.count target - 1) ⟨String.ofList target, Descriptor.empty⟩
      else [] := by
  induction structures generalizing before with
  | nil => simp [resourcesOf]
  | cons name rest ih =>
    rw [resourcesOf]
    by_cases own : name = target
    · subst own
      by_cases earlier : name ∈ before
      · simp [ih, earlier, List.replicate_succ]
      · simp [ih, earlier]
    · have unnamed : ¬ String.ofList name = String.ofList target := fun same => own (String.ofList_injective same)
      have other : ¬ target = name := fun same => own same.symm
      simp [ih, unnamed, own, other]

theorem discover_parsed (names : TypeNames) (text : String) (items : List Item)
    (parsed : itemsOfText? text.toList = some items) : discover? names text = some (resourcesOfItems names items) := by
  rw [discover?, parsed, Option.map_some]

theorem resource_declared (names : TypeNames) (items : List Item) (target : List Char)
    (declared : target ∈ structureNames items) :
    (resourcesOfItems names items).find? (·.name == String.ofList target) =
      some ⟨String.ofList target, describeType names items target⟩ := by
  rw [← List.head?_filter, resourcesOfItems, resources_named, if_neg List.not_mem_nil, if_pos declared]
  rfl

theorem resource_declared_once (names : TypeNames) (items : List Item) (target : List Char)
    (once : (structureNames items).count target = 1) :
    (resourcesOfItems names items).filter (·.name == String.ofList target) =
      [⟨String.ofList target, describeType names items target⟩] := by
  have declared : target ∈ structureNames items := List.count_pos_iff.mp (by omega)
  rw [resourcesOfItems, resources_named, if_neg List.not_mem_nil, if_pos declared, once]
  rfl

theorem resources_of_congr (names : TypeNames) (a b : List Item) (before structures : List (List Char))
    (same : ∀ target ∈ structures, describeType names a target = describeType names b target) :
    resourcesOf names a before structures = resourcesOf names b before structures := by
  induction structures generalizing before with
  | nil => rfl
  | cons name rest ih =>
    rw [resourcesOf, resourcesOf, same name (List.mem_cons_self ..),
      ih (name :: before) fun target member => same target (List.mem_cons_of_mem _ member)]

structure Alike (structures : List (List Char)) (a b : List Item) : Prop where
  structures_eq : structureNames a = structureNames b
  functions_eq : ∀ target ∈ structures, ∀ ofTrait method,
    functionsNamed (functionsFor a target) ofTrait method = functionsNamed (functionsFor b target) ofTrait method

inductive Inert (structures : List (List Char)) : Item → Prop where
  | module (name : List Char) (content : List Item) : Inert structures (.module name content)
  | other : Inert structures .other
  | elsewhere (block : Implementation) (foreign : ∀ target ∈ structures, ¬ block.Targets target) :
      Inert structures (.implementation block)

-- One step of editing: an item more that is passed over, a member more that is no function, or a block of a
-- trait that is moved past others, none of which is of a trait and for the same type.
inductive Edit (structures : List (List Char)) : List Item → List Item → Prop where
  | item (before after : List Item) (added : Item) (inert : Inert structures added) :
      Edit structures (before ++ after) (before ++ added :: after)
  | member (before after : List Item) (target : TypeExpr) (ofTrait : Bool) (front back : List Member) :
      Edit structures (before ++ .implementation ⟨target, ofTrait, front ++ back⟩ :: after)
        (before ++ .implementation ⟨target, ofTrait, front ++ .other :: back⟩ :: after)
  | move (before between after : List Item) (block : Implementation) (ofTrait : block.ofTrait = true)
      (passed : ∀ other, .implementation other ∈ between → other.ofTrait = true →
        ∀ target, block.Targets target → ¬ other.Targets target) :
      Edit structures (before ++ .implementation block :: (between ++ after))
        (before ++ (between ++ .implementation block :: after))

theorem structure_names_append (a b : List Item) : structureNames (a ++ b) = structureNames a ++ structureNames b :=
  List.filterMap_append

theorem functions_for_append (a b : List Item) (target : List Char) :
    functionsFor (a ++ b) target = functionsFor a target ++ functionsFor b target := by
  simp [functionsFor, implementations]

theorem functions_for_block (block : Implementation) (rest : List Item) (target : List Char) :
    functionsFor (.implementation block :: rest) target = functionsOf target block ++ functionsFor rest target :=
  rfl

theorem functions_of_elsewhere (target : List Char) (block : Implementation) (foreign : ¬ block.Targets target) :
    functionsOf target block = [] :=
  if_neg fun named => foreign ((target_name_iff block target).mp named)

theorem functions_for_inert (structures : List (List Char)) (item : Item) (rest : List Item) (target : List Char)
    (inert : Inert structures item) (declared : target ∈ structures) :
    functionsFor (item :: rest) target = functionsFor rest target := by
  cases inert with
  | module name content => rfl
  | other => rfl
  | elsewhere block foreign =>
    rw [functions_for_block, functions_of_elsewhere target block (foreign target declared), List.nil_append]

theorem functions_named_absent (functions : List (Bool × FunctionHeader)) (ofTrait : Bool) (method : String)
    (absent : ∀ f ∈ functions, f.1 ≠ ofTrait) : functionsNamed functions ofTrait method = [] := by
  by_contra present
  obtain ⟨header, member, -⟩ := (functions_named_present functions ofTrait method).mp present
  exact absent _ member rfl

theorem functions_named_moved (between : List Item) (block : Implementation) (target : List Char) (ofTrait : Bool)
    (method : String) (of_trait : block.ofTrait = true)
    (passed : ∀ other, .implementation other ∈ between → other.ofTrait = true →
      ∀ target, block.Targets target → ¬ other.Targets target) :
    functionsNamed (functionsOf target block) ofTrait method ++ functionsNamed (functionsFor between target) ofTrait method =
      functionsNamed (functionsFor between target) ofTrait method ++ functionsNamed (functionsOf target block) ofTrait method := by
  by_cases targets : block.Targets target
  · cases ofTrait with
    | false =>
      have none_moved : functionsNamed (functionsOf target block) false method = [] := by
        refine functions_named_absent _ _ _ fun f member inherent => ?_
        obtain ⟨-, -, sort⟩ := (mem_functions_of target block f.1 f.2).mp member
        rw [of_trait, inherent] at sort
        cases sort
      rw [none_moved, List.append_nil, List.nil_append]
    | true =>
      have none_passed : functionsNamed (functionsFor between target) true method = [] := by
        refine functions_named_absent _ _ _ fun f member sort => ?_
        obtain ⟨other, listed, same_target, -, other_sort⟩ := (mem_functions_for _ target f.1 f.2).mp member
        exact passed other listed (other_sort.trans sort) target targets same_target
      rw [none_passed, List.append_nil, List.nil_append]
  · rw [functions_of_elsewhere target block targets]
    exact (List.append_nil _).symm

theorem edit_alike (structures : List (List Char)) (a b : List Item) (edit : Edit structures a b) :
    Alike structures a b := by
  cases edit with
  | item before after added inert =>
    refine ⟨?_, fun target declared ofTrait method => ?_⟩
    · rw [structure_names_append, structure_names_append]
      cases inert <;> rfl
    · rw [functions_for_append, functions_for_append, functions_for_inert structures added after target inert declared]
  | member before after target ofTrait front back =>
    refine ⟨?_, fun name _ sort method => ?_⟩
    · rw [structure_names_append, structure_names_append]
      rfl
    · have skipped : (front ++ .other :: back).filterMap Member.header? = (front ++ back).filterMap Member.header? := by
        rw [List.filterMap_append, List.filterMap_append]
        rfl
      have same : functionsOf name ⟨target, ofTrait, front ++ .other :: back⟩ =
          functionsOf name ⟨target, ofTrait, front ++ back⟩ := by
        simp only [functionsOf, skipped]
        rfl
      rw [functions_for_append, functions_for_append, functions_for_block, functions_for_block, same]
  | move before between after block ofTrait passed =>
    refine ⟨?_, fun target _ sort method => ?_⟩
    · have unnamed (rest : List Item) : structureNames (.implementation block :: rest) = structureNames rest := rfl
      simp only [structure_names_append, unnamed]
    · simp only [functions_for_append, functions_for_block, functions_named_append, ← List.append_assoc]
      rw [List.append_assoc (functionsNamed (functionsFor before target) sort method),
        functions_named_moved between block target sort method ofTrait passed, ← List.append_assoc]

theorem alike_of_edits (structures : List (List Char)) (a b : List Item)
    (edits : Relation.EqvGen (Edit structures) a b) : Alike structures a b := by
  induction edits with
  | rel a b edit => exact edit_alike structures a b edit
  | refl a => exact ⟨rfl, fun _ _ _ _ => rfl⟩
  | symm a b _ ih => exact ⟨ih.1.symm, fun target declared sort method => (ih.2 target declared sort method).symm⟩
  | trans a b c _ _ first second =>
    exact ⟨first.1.trans second.1, fun target declared sort method =>
      (first.2 target declared sort method).trans (second.2 target declared sort method)⟩

theorem resources_of_alike (names : TypeNames) (a b : List Item) (alike : Alike (structureNames a) a b) :
    resourcesOfItems names b = resourcesOfItems names a := by
  rw [resourcesOfItems, resourcesOfItems, ← alike.structures_eq]
  refine (resources_of_congr names a b [] (structureNames a) fun target declared => ?_).symm
  refine Descriptor.eq_of_get fun method => ?_
  rw [get_describe_type, get_describe_type, attached?, attached?, alike.functions_eq target declared,
    alike.functions_eq target declared]

structure Describes (names : TypeNames) (items : List Item) (target : List Char) (resource : Resource) : Prop where
  name_eq : resource.name = String.ofList target
  entry_iff : ∀ method, (resource.descriptor.get? method).isSome = true ↔
    ∃ block header, .implementation block ∈ items ∧ block.Targets target ∧ .function header ∈ block.members ∧
      header.methodName = method
  entry_eq : ∀ method, resource.descriptor.get? method =
    (attached? items target method).map fun header => .function (header.describe names)

structure Discovered (names : TypeNames) (items : List Item) (resources : List Resource) : Prop where
  one_each : List.Forall₂ (Describes names items) (structureNames items) resources
  kept : ∀ others, Relation.EqvGen (Edit (structureNames items)) items others →
    ∀ text, itemsOfText? text.toList = some others → discover? names text = some resources

theorem describes_structure (names : TypeNames) (items : List Item) (target : List Char) :
    Describes names items target ⟨String.ofList target, describeType names items target⟩ where
  name_eq := rfl
  entry_iff method := by rw [get_describe_type, Option.isSome_map, attached_iff]
  entry_eq method := get_describe_type names items target method

theorem structures_discovered (names : TypeNames) (text : String) (items : List Item)
    (parsed : itemsOfText? text.toList = some items) (distinct : (structureNames items).Nodup) :
    ∃ resources, discover? names text = some resources ∧ Discovered names items resources := by
  refine ⟨resourcesOfItems names items, discover_parsed names text items parsed, ?_,
    fun others edits other reparsed => ?_⟩
  · rw [resourcesOfItems, resources_of_distinct names items [] _ distinct fun _ _ => List.not_mem_nil,
      List.forall₂_map_right_iff]
    exact List.forall₂_same.mpr fun target _ => describes_structure names items target
  · rw [discover_parsed names other others reparsed,
      resources_of_alike names items others (alike_of_edits _ _ _ edits)]

def shadowing : String := "struct S;impl T for S{fn put(&self){}}impl m::S{fn put(){}fn Put(self){}}"

theorem shadowing_discovered :
    ∃ items, itemsOfText? shadowing.toList = some items ∧ (structureNames items).Nodup ∧
      Discovered {} items [⟨"S", .ofList [("Put", .function ⟨[.other "self"], []⟩)]⟩] := by
  have read : (itemsOfText? shadowing.toList).map (fun items => (structureNames items, resourcesOfItems {} items)) =
      some (["S".toList], [⟨"S", .ofList [("Put", .function ⟨[.other "self"], []⟩)]⟩]) := by decide +kernel
  obtain ⟨items, parsed, held⟩ := Option.map_eq_some_iff.mp read
  obtain ⟨structures, result⟩ := Prod.mk.inj held
  have distinct : (structureNames items).Nodup := by
    rw [structures]
    decide
  obtain ⟨resources, found, discovered⟩ := structures_discovered {} shadowing items parsed distinct
  rw [discover_parsed {} shadowing items parsed, result] at found
  cases Option.some.inj found
  exact ⟨items, parsed, distinct, discovered⟩

end ResourceRoutes.Source
