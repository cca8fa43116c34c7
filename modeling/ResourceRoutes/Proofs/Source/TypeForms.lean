import ResourceRoutes.Source.Classification
set_option autoImplicit false

namespace ResourceRoutes.Source

inductive InParens (form : TypeExpr → Prop) : TypeExpr → Prop where
  | bare (t : TypeExpr) (fits : form t) : InParens form t
  | paren (inner : TypeExpr) (fits : InParens form inner) : InParens form (.paren inner)

inductive PathTo (name : List Char) : TypeExpr → Prop where
  | mk (isGlobal : Bool) (leading : List Segment) (arguments : Arguments) :
      PathTo name (.path isGlobal (leading ++ [.mk name arguments]))

inductive TraitCalled (name : List Char) : Bound → Prop where
  | mk (inParens : Bool) (modifiers : List Tree) (isGlobal : Bool) (leading : List Segment) (arguments : Arguments) :
      TraitCalled name (.trait inParens modifiers isGlobal (leading ++ [.mk name arguments]))

-- What a writer is behind its reference: the type itself, or a type of which only such a trait is known. The
-- keyword of a trait object may be left out.
inductive WriterTarget (name : List Char) : TypeExpr → Prop where
  | itself (t : TypeExpr) (path : PathTo name t) : WriterTarget name t
  | object (isDyn : Bool) (bounds : List Bound) (trailing : Bool) (bound : Bound) (listed : bound ∈ bounds)
      (called : TraitCalled name bound) : WriterTarget name (.traitObject isDyn bounds trailing)
  | implementor (bounds : List Bound) (trailing : Bool) (bound : Bound) (listed : bound ∈ bounds)
      (called : TraitCalled name bound) : WriterTarget name (.implTrait bounds trailing)

inductive WriterReference (name : List Char) : TypeExpr → Prop where
  | mk (lifetime : Option (List Char)) (target : TypeExpr) (fits : InParens (WriterTarget name) target) :
      WriterReference name (.reference lifetime true target)

def boxOf (separated : Bool) (held : TypeExpr) (trailing : Bool) : Segment :=
  .mk "Box".toList (.angled separated [.type held] trailing)

inductive RequestHolder (name : List Char) : TypeExpr → Prop where
  | reference (lifetime : Option (List Char)) (mutable : Bool) (target : TypeExpr)
      (fits : InParens (PathTo name) target) : RequestHolder name (.reference lifetime mutable target)
  | box (isGlobal : Bool) (leading : List Segment) (separated : Bool) (held : TypeExpr) (trailing : Bool)
      (fits : InParens (PathTo name) held) :
      RequestHolder name (.path isGlobal (leading ++ [boxOf separated held trailing]))
  | qualifiedBox (self : TypeExpr) (isGlobal : Bool) (traitPath leading : List Segment) (separated : Bool)
      (held : TypeExpr) (trailing : Bool) (fits : InParens (PathTo name) held) :
      RequestHolder name (.qualified self isGlobal traitPath (leading ++ [boxOf separated held trailing]))

inductive UnitType : TypeExpr → Prop where
  | mk (trailing : Bool) : UnitType (.tuple [] trailing)

theorem in_parens_of_strip (form : TypeExpr → Prop) (t : TypeExpr) (fits : form t.stripParens) : InParens form t := by
  cases t with
  | paren inner => exact .paren inner (in_parens_of_strip form inner fits)
  | _ => exact .bare _ fits

theorem strip_of_in_parens (form : TypeExpr → Prop) (opened : ∀ inner, ¬ form (.paren inner)) (t : TypeExpr)
    (fits : InParens form t) : form t.stripParens := by
  induction fits with
  | bare t fits =>
    cases t with
    | paren inner => exact absurd fits (opened inner)
    | _ => exact fits
  | paren inner _ ih => exact ih

theorem in_parens_iff (form : TypeExpr → Prop) (opened : ∀ inner, ¬ form (.paren inner)) (t : TypeExpr) :
    InParens form t ↔ form t.stripParens :=
  ⟨strip_of_in_parens form opened t, in_parens_of_strip form t⟩

theorem ends_in_iff (segments : List Segment) (name : List Char) :
    endsIn segments name = true ↔ ∃ leading arguments, segments = leading ++ [.mk name arguments] := by
  simp only [endsIn, Option.any_eq_true, List.getLast?_eq_some_iff, beq_iff_eq]
  constructor
  · rintro ⟨⟨last, arguments⟩, ⟨leading, rfl⟩, rfl⟩
    exact ⟨leading, arguments, rfl⟩
  · rintro ⟨leading, arguments, rfl⟩
    exact ⟨_, ⟨leading, rfl⟩, rfl⟩

theorem path_to_iff (name : List Char) (isGlobal : Bool) (segments : List Segment) :
    PathTo name (.path isGlobal segments) ↔ endsIn segments name = true := by
  rw [ends_in_iff]
  constructor
  · rintro ⟨⟩
    exact ⟨_, _, rfl⟩
  · rintro ⟨leading, arguments, rfl⟩
    exact .mk isGlobal leading arguments

theorem is_named_iff (t : TypeExpr) (name : List Char) : t.isNamed name = true ↔ InParens (PathTo name) t := by
  rw [in_parens_iff _ nofun, TypeExpr.isNamed]
  cases t.stripParens with
  | path isGlobal segments => exact (path_to_iff name isGlobal segments).symm
  | _ => exact ⟨nofun, nofun⟩

theorem only_argument_iff (segments : List Segment) (t : TypeExpr) :
    onlyArgument? segments = some t ↔
      ∃ leading name separated trailing, segments = leading ++ [.mk name (.angled separated [.type t] trailing)] := by
  constructor
  · intro found
    unfold onlyArgument? at found
    split at found
    · rename_i name separated held trailing at_end
      cases found
      obtain ⟨leading, rfl⟩ := List.getLast?_eq_some_iff.mp at_end
      exact ⟨leading, name, separated, trailing, rfl⟩
    · cases found
  · rintro ⟨leading, name, separated, trailing, rfl⟩
    simp [onlyArgument?]

theorem boxed_request_iff (names : TypeNames) (segments : List Segment) :
    names.isBoxedRequest segments = true ↔
      ∃ leading separated held trailing, segments = leading ++ [boxOf separated held trailing] ∧
        InParens (PathTo names.requestName) held := by
  simp only [TypeNames.isBoxedRequest, Bool.and_eq_true, Option.any_eq_true, only_argument_iff, is_named_iff]
  constructor
  · rintro ⟨boxed, held, ⟨leading, name, separated, trailing, rfl⟩, fits⟩
    obtain ⟨_, _, same⟩ := (ends_in_iff _ _).mp boxed
    obtain ⟨-, last⟩ := List.append_inj' same rfl
    cases last
    exact ⟨leading, separated, held, trailing, rfl, fits⟩
  · rintro ⟨leading, separated, held, trailing, rfl, fits⟩
    exact ⟨(ends_in_iff _ _).mpr ⟨leading, _, rfl⟩, held, ⟨leading, _, separated, trailing, rfl⟩, fits⟩

theorem binds_to_iff (bounds : List Bound) (name : List Char) :
    bindsTo bounds name = true ↔ ∃ bound ∈ bounds, TraitCalled name bound := by
  simp only [bindsTo, List.any_eq_true]
  refine exists_congr fun bound => and_congr_right fun _ => ?_
  cases bound with
  | trait inParens modifiers isGlobal segments =>
    rw [ends_in_iff]
    constructor
    · rintro ⟨leading, arguments, rfl⟩
      exact .mk inParens modifiers isGlobal leading arguments
    · rintro ⟨⟩
      exact ⟨_, _, rfl⟩
  | lifetime name => exact ⟨nofun, nofun⟩
  | other trees => exact ⟨nofun, nofun⟩

theorem writer_target_iff (name : List Char) (t : TypeExpr) : t.namesTypeOrTrait name = true ↔ WriterTarget name t := by
  cases t with
  | path isGlobal segments =>
    refine (path_to_iff name isGlobal segments).symm.trans ⟨.itself _, ?_⟩
    rintro ⟨_, path⟩
    exact path
  | traitObject isDyn bounds trailing =>
    refine (binds_to_iff bounds name).trans ⟨fun ⟨bound, listed, called⟩ => .object _ _ _ bound listed called, ?_⟩
    rintro (⟨_, ⟨⟩⟩ | ⟨_, _, _, bound, listed, called⟩)
    exact ⟨bound, listed, called⟩
  | implTrait bounds trailing =>
    refine (binds_to_iff bounds name).trans ⟨fun ⟨bound, listed, called⟩ => .implementor _ _ bound listed called, ?_⟩
    rintro (⟨_, ⟨⟩⟩ | _ | ⟨_, _, bound, listed, called⟩)
    exact ⟨bound, listed, called⟩
  | _ =>
    refine ⟨nofun, ?_⟩
    rintro ⟨_, ⟨⟩⟩

theorem writer_behind_iff (name : List Char) (t : TypeExpr) :
    t.stripParens.namesTypeOrTrait name = true ↔ InParens (WriterTarget name) t := by
  refine (writer_target_iff name _).trans (in_parens_iff _ (fun inner target => ?_) t).symm
  cases target with
  | itself _ path => cases path

namespace TypeNames

variable (names : TypeNames) (t : TypeExpr)

theorem role_cases (role : ParamKind) (told : names.role? t = some role) :
    (role = .context ∧ InParens (PathTo names.contextName) t) ∨
      (role = .responseWriter ∧ InParens (WriterReference names.writerName) t) ∨
      (role = .requestPointer ∧ InParens (RequestHolder names.requestName) t) := by
  rw [role?] at told
  rw [in_parens_iff (PathTo _) nofun, in_parens_iff (WriterReference _) nofun, in_parens_iff (RequestHolder _) nofun]
  cases shape : t.stripParens with
  | path isGlobal segments =>
    rw [shape] at told
    by_cases named : endsIn segments names.contextName = true
    · obtain rfl : .context = role := by simpa [named] using told
      exact .inl ⟨rfl, (path_to_iff _ isGlobal segments).mpr named⟩
    · by_cases boxed : names.isBoxedRequest segments = true
      · obtain rfl : .requestPointer = role := by simpa [named, boxed] using told
        obtain ⟨leading, separated, held, trailing, rfl, fits⟩ := (boxed_request_iff names segments).mp boxed
        exact .inr (.inr ⟨rfl, .box isGlobal leading separated held trailing fits⟩)
      · simp [named, boxed] at told
  | qualified self isGlobal traitPath rest =>
    rw [shape] at told
    by_cases boxed : names.isBoxedRequest rest = true
    · obtain rfl : .requestPointer = role := by simpa [boxed] using told
      obtain ⟨leading, separated, held, trailing, rfl, fits⟩ := (boxed_request_iff names rest).mp boxed
      exact .inr (.inr ⟨rfl, .qualifiedBox self isGlobal traitPath leading separated held trailing fits⟩)
    · simp [boxed] at told
  | reference lifetime mutable target =>
    rw [shape] at told
    by_cases writer : (mutable && target.stripParens.namesTypeOrTrait names.writerName) = true
    · obtain rfl : .responseWriter = role := by simpa [writer] using told
      obtain ⟨rfl, behind⟩ := Bool.and_eq_true_iff.mp writer
      exact .inr (.inl ⟨rfl, .mk lifetime target ((writer_behind_iff _ target).mp behind)⟩)
    · by_cases request : target.isNamed names.requestName = true
      · obtain rfl : .requestPointer = role := by simpa [writer, request] using told
        exact .inr (.inr ⟨rfl, .reference lifetime mutable target ((is_named_iff target _).mp request)⟩)
      · simp [writer, request] at told
  | _ => simp [shape] at told

theorem role_context_iff : names.role? t = some .context ↔ InParens (PathTo names.contextName) t := by
  constructor
  · intro told
    obtain ⟨-, fits⟩ | ⟨⟨⟩, -⟩ | ⟨⟨⟩, -⟩ := names.role_cases t _ told
    exact fits
  · intro fits
    have path := strip_of_in_parens _ nofun t fits
    rw [role?]
    generalize t.stripParens = stripped at path
    obtain ⟨isGlobal, leading, arguments⟩ := path
    simp [(ends_in_iff _ _).mpr ⟨leading, arguments, rfl⟩]

theorem role_writer_iff : names.role? t = some .responseWriter ↔ InParens (WriterReference names.writerName) t := by
  constructor
  · intro told
    obtain ⟨⟨⟩, -⟩ | ⟨-, fits⟩ | ⟨⟨⟩, -⟩ := names.role_cases t _ told
    exact fits
  · intro fits
    have reference := strip_of_in_parens _ nofun t fits
    rw [role?]
    generalize t.stripParens = stripped at reference
    obtain ⟨lifetime, target, behind⟩ := reference
    simp [(writer_behind_iff _ target).mpr behind]

theorem role_request_iff (context_box : names.contextName ≠ "Box".toList)
    (writer_request : names.writerName ≠ names.requestName) :
    names.role? t = some .requestPointer ↔ InParens (RequestHolder names.requestName) t := by
  constructor
  · intro told
    obtain ⟨⟨⟩, -⟩ | ⟨⟨⟩, -⟩ | ⟨-, fits⟩ := names.role_cases t _ told
    exact fits
  · intro fits
    have holder := strip_of_in_parens _ nofun t fits
    rw [role?]
    generalize t.stripParens = stripped at holder
    cases holder with
    | reference lifetime mutable target path =>
      have unwritten : target.stripParens.namesTypeOrTrait names.writerName = false := by
        have named := strip_of_in_parens _ nofun target path
        generalize target.stripParens = stripped at named
        obtain ⟨isGlobal, leading, arguments⟩ := named
        simp [TypeExpr.namesTypeOrTrait, endsIn, Segment.name, writer_request.symm]
      simp [unwritten, (is_named_iff target _).mpr path]
    | box isGlobal leading separated held trailing path =>
      have other : endsIn (leading ++ [boxOf separated held trailing]) names.contextName = false := by
        rw [endsIn, List.getLast?_concat]
        exact beq_eq_false_iff_ne.mpr context_box.symm
      simp [other, (boxed_request_iff names _).mpr ⟨leading, separated, held, trailing, rfl, path⟩]
    | qualifiedBox self isGlobal traitPath leading separated held trailing path =>
      simp [(boxed_request_iff names _).mpr ⟨leading, separated, held, trailing, rfl, path⟩]

theorem classify_iff (kind : ParamKind) (tagged : ∀ name, kind ≠ .other name) :
    names.classifyParam t = kind ↔ names.role? t = some kind := by
  rw [classifyParam]
  cases names.role? t with
  | none => simpa using (tagged t.display).symm
  | some role => simp

end TypeNames

inductive QualifiedPath (rest : List Segment) : TypeExpr → Prop where
  | mk (self : TypeExpr) (isGlobal : Bool) (traitPath : List Segment) :
      QualifiedPath rest (.qualified self isGlobal traitPath rest)

inductive EndsInBox (name : List Char) : List Segment → Prop where
  | mk (leading : List Segment) (separated : Bool) (held : TypeExpr) (trailing : Bool)
      (fits : InParens (PathTo name) held) : EndsInBox name (leading ++ [boxOf separated held trailing])

theorem ends_in_box_iff (names : TypeNames) (segments : List Segment) :
    names.isBoxedRequest segments = true ↔ EndsInBox names.requestName segments := by
  rw [boxed_request_iff]
  constructor
  · rintro ⟨leading, separated, held, trailing, rfl, fits⟩
    exact .mk leading separated held trailing fits
  · intro boxed
    cases boxed with
    | mk leading separated held trailing fits => exact ⟨leading, separated, held, trailing, rfl, fits⟩

namespace TypeNames

variable (names : TypeNames) (t : TypeExpr) (rest : List Segment)

theorem role_qualified (qualified : InParens (QualifiedPath rest) t) :
    names.role? t = if names.isBoxedRequest rest then some .requestPointer else none := by
  have path := strip_of_in_parens _ nofun t qualified
  rw [role?]
  generalize t.stripParens = stripped at path
  cases path with
  | mk self isGlobal traitPath => rfl

theorem qualified_other_iff (qualified : InParens (QualifiedPath rest) t) :
    (names.classifyParam t = .other t.display ↔ ¬ EndsInBox names.requestName rest) ∧
      (names.classifyParam t = .requestPointer ↔ EndsInBox names.requestName rest) := by
  have role := names.role_qualified t rest qualified
  rw [← ends_in_box_iff, classifyParam, role]
  by_cases boxed : names.isBoxedRequest rest = true <;> simp [boxed]

-- `(<T as U>::Request)`
def associatedRequest : TypeExpr :=
  .paren (.qualified (.path false [.mk "T".toList .none]) false [.mk "U".toList .none] [.mk "Request".toList .none])

theorem associated_request_other :
    InParens (QualifiedPath [.mk "Request".toList .none]) associatedRequest ∧
      ¬ EndsInBox (requestName {}) [.mk "Request".toList .none] ∧
      classifyParam {} associatedRequest = .other associatedRequest.display := by
  have qualified : InParens (QualifiedPath [.mk "Request".toList .none]) associatedRequest :=
    .paren _ (.bare _ (.mk ..))
  have unboxed : ¬ EndsInBox (requestName {}) [.mk "Request".toList .none] := by
    rw [← ends_in_box_iff]
    decide
  exact ⟨qualified, unboxed, (qualified_other_iff {} associatedRequest _ qualified).1.mpr unboxed⟩

theorem associated_box_taken_for_request :
    ∃ t rest, TypeExpr.ofText? "<T as U>::Box<Request>".toList = some t ∧ InParens (QualifiedPath rest) t ∧
      classifyParam {} t = .requestPointer := by
  have read : ((TypeExpr.ofText? "<T as U>::Box<Request>".toList).map fun t =>
      (t matches .qualified .., classifyParam {} t)) = some (true, .requestPointer) := by decide +kernel
  obtain ⟨t, parsed, held⟩ := Option.map_eq_some_iff.mp read
  obtain ⟨shape, taken⟩ := Prod.mk.inj held
  cases t with
  | qualified self isGlobal traitPath rest => exact ⟨_, rest, parsed, .bare _ (.mk self isGlobal traitPath), taken⟩
  | _ => cases shape

end TypeNames

end ResourceRoutes.Source
