import ResourceRoutes.Source.Item
set_option autoImplicit false
-- The longest parsers take more steps than resolution makes by default.
set_option synthInstance.maxSize 500

/- Parsers leave an end of what they were given, since they are put together from parsers that do. -/
namespace ResourceRoutes.Source

-- Begun at an end of `start`, the parser leaves an end of `start`. It may go back as far as that.
class Parser.StaysIn {α : Type} (start : List Tree) (p : Parser α) : Prop where
  left_over : ∀ ts a rest, ts <:+ start → p ts = some (a, rest) → rest <:+ start

namespace Parser

variable {α β : Type} (start : List Tree)

theorem StaysIn.andThen {start : List Tree} {p : Parser α} {f : α → Parser β} (first : StaysIn start p)
    (next : ∀ a, StaysIn start (f a)) : StaysIn start (p >>= f) where
  left_over ts b rest within run := by
    obtain ⟨⟨a, middle⟩, run_first, run_next⟩ := Option.bind_eq_some_iff.mp run
    exact (next a).left_over middle b rest (first.left_over ts a middle within run_first) run_next

instance stays_bind (p : Parser α) (f : α → Parser β) [first : StaysIn start p]
    [next : ∀ a, StaysIn start (f a)] : StaysIn start (p >>= f) :=
  first.andThen next

instance stays_pure (a : α) : StaysIn start (pure a : Parser α) where
  left_over ts b rest within run := by
    cases run
    exact within

instance stays_ite (c : Prop) [Decidable c] (p q : Parser α) [kept : StaysIn start p] [other : StaysIn start q] :
    StaysIn start (if c then p else q) := by
  by_cases holds : c
  · rw [if_pos holds]
    exact kept
  · rw [if_neg holds]
    exact other

instance stays_fail : StaysIn start (fail : Parser α) where
  left_over ts a rest within run := by cases run

instance stays_get : StaysIn start (get : Parser (List Tree)) where
  left_over ts a rest within run := by
    cases run
    exact within

theorem get_bind_run (f : List Tree → Parser β) (ts : List Tree) : (get >>= f) ts = f ts ts := rfl

instance (priority := low) stays_get_bind (f : List Tree → Parser β) [next : ∀ here, StaysIn here (f here)] :
    StaysIn start (get >>= f) where
  left_over ts b rest within run := by
    rw [get_bind_run] at run
    exact ((next ts).left_over ts b rest List.suffix_rfl run).trans within

instance stays_set : StaysIn start (set start : Parser PUnit) where
  left_over ts a rest within run := by
    cases run
    exact List.suffix_rfl

instance stays_set_nil : StaysIn start (set ([] : List Tree) : Parser PUnit) where
  left_over ts a rest within run := by
    cases run
    exact List.nil_suffix

instance stays_lift (o : Option α) : StaysIn start (liftM (m := Option) o : Parser α) where
  left_over ts a rest within run := by
    cases o with
    | none => cases run
    | some b =>
      cases run
      exact within

instance stays_sees (look : List Tree → Bool) : StaysIn start (sees look) := by unfold sees; infer_instance

instance stays_expect (look : List Tree → Bool) : StaysIn start (expect look) := by unfold expect; infer_instance

instance stays_skip (n : Nat) : StaysIn start (skip n) where
  left_over ts a rest within run := by
    cases run
    exact (List.drop_suffix n ts).trans within

instance stays_anyTree : StaysIn start anyTree where
  left_over ts a rest within run := by
    cases ts with
    | nil => cases run
    | cons tree ts =>
      cases run
      exact (List.suffix_cons ..).trans within

instance stays_op (s : String) : StaysIn start (op s) := by unfold op; infer_instance
instance stays_word (s : String) : StaysIn start (word s) := by unfold word; infer_instance
instance stays_opIf (s : String) : StaysIn start (opIf s) := by unfold opIf; infer_instance
instance stays_wordIf (s : String) : StaysIn start (wordIf s) := by unfold wordIf; infer_instance

instance stays_anyIdent : StaysIn start anyIdent := by
  unfold anyIdent
  apply StaysIn.andThen inferInstance
  intro tree
  cases tree <;> infer_instance

instance stays_ident : StaysIn start ident := by unfold ident; infer_instance

instance stays_lifetime : StaysIn start lifetime := by
  unfold lifetime
  apply StaysIn.andThen inferInstance
  intro tree
  cases tree <;> infer_instance

instance stays_lifetimeIf : StaysIn start lifetimeIf := by unfold lifetimeIf; infer_instance

instance stays_inGroup (delimiter : Delimiter) (p : Parser α) : StaysIn start (inGroup delimiter p) := by
  unfold inGroup
  apply StaysIn.andThen inferInstance
  intro tree
  cases tree <;> infer_instance

instance stays_group (delimiter : Delimiter) : StaysIn start (group delimiter) := by unfold group; infer_instance
instance stays_atEnd : StaysIn start atEnd := by unfold atEnd; infer_instance
instance stays_fuel : StaysIn start fuel := by unfold fuel; infer_instance
instance stays_depthFuel : StaysIn start depthFuel := by unfold depthFuel; infer_instance

instance stays_untilEnd (item : Parser α) [StaysIn start item] (fuel : Nat) : StaysIn start (untilEnd item fuel) := by
  induction fuel with
  | zero => exact stays_fail start
  | succ fuel ih => unfold untilEnd; infer_instance

instance stays_listed (item : Parser α) [StaysIn start item] (fuel : Nat) : StaysIn start (listed item fuel) := by
  induction fuel with
  | zero => exact stays_fail start
  | succ fuel ih => unfold listed; infer_instance

instance stays_signed (sign : String) (enough : List Tree → Bool) (item : Parser α) [StaysIn start item]
    (fuel : Nat) : StaysIn start (signed sign enough item fuel) := by
  induction fuel with
  | zero => exact stays_fail start
  | succ fuel ih => unfold signed; infer_instance

instance stays_commaList (item : Parser α) [StaysIn start item] : StaysIn start (commaList item) := by
  unfold commaList; infer_instance

instance stays_plainPathRest (fuel : Nat) : StaysIn start (plainPathRest fuel) := by
  induction fuel with
  | zero => exact stays_fail start
  | succ fuel ih => unfold plainPathRest; infer_instance

instance stays_plainPath : StaysIn start plainPath := by unfold plainPath; infer_instance

instance stays_anyGroup : StaysIn start anyGroup := by
  unfold anyGroup
  apply StaysIn.andThen inferInstance
  intro tree
  cases tree <;> infer_instance

instance stays_someRest : StaysIn start someRest := by unfold someRest; infer_instance
instance stays_arrayLength : StaysIn start arrayLength := by unfold arrayLength; infer_instance

instance stays_attributes (look : List Tree → Bool) (sign : Parser (List Tree)) [StaysIn start sign]
    (fuel : Nat) : StaysIn start (attributes look sign fuel) := by
  induction fuel with
  | zero => exact stays_fail start
  | succ fuel ih => unfold attributes; infer_instance

instance stays_outerAttributes : StaysIn start outerAttributes := by unfold outerAttributes; infer_instance
instance stays_innerAttributes : StaysIn start innerAttributes := by unfold innerAttributes; infer_instance
instance stays_literal : StaysIn start literal := by unfold literal; infer_instance
instance stays_constant (namesAllowed : Bool) : StaysIn start (constant namesAllowed) := by
  unfold constant; infer_instance
instance stays_convention : StaysIn start convention := by unfold convention; infer_instance
instance stays_wordTrees (s : String) : StaysIn start (wordTrees s) := by unfold wordTrees; infer_instance
instance stays_lifetimeBounds (enough : List Tree → Bool) : StaysIn start (lifetimeBounds enough) := by
  unfold lifetimeBounds; infer_instance
instance stays_capturedName : StaysIn start capturedName := by unfold capturedName; infer_instance
instance stays_capture : StaysIn start capture := by unfold capture; infer_instance
instance stays_constMarker : StaysIn start constMarker := by unfold constMarker; infer_instance

structure TypesStay (fuel : Nat) : Prop where
  typeExpr : ∀ plus, StaysIn start (typeExpr fuel plus)
  parenthesized : ∀ plus, StaysIn start (parenthesized fuel plus)
  firstElement : StaysIn start (firstElement fuel)
  moreBounds : StaysIn start (moreBounds fuel)
  arrayOrSlice : StaysIn start (arrayOrSlice fuel)
  pathType : ∀ plus binder, StaysIn start (pathType fuel plus binder)
  qualifiedPath : ∀ inExpr, StaysIn start (qualifiedPath fuel inExpr)
  path : ∀ inExpr, StaysIn start (path fuel inExpr)
  pathRest : ∀ inExpr leaveCalls, StaysIn start (pathRest fuel inExpr leaveCalls)
  segment : ∀ inExpr, StaysIn start (segment fuel inExpr)
  angled : StaysIn start (angled fuel)
  argument : StaysIn start (argument fuel)
  traitObject : ∀ plus isDyn, StaysIn start (traitObject fuel plus isDyn)
  bounds : ∀ plus captures, StaysIn start (bounds fuel plus captures)
  bound : ∀ captures, StaysIn start (bound fuel captures)
  traitBound : ∀ inParens, StaysIn start (traitBound fuel inParens)
  calledArguments : StaysIn start (calledArguments fuel)
  binderIf : StaysIn start (binderIf fuel)
  parameter : StaysIn start (parameter fuel)
  functionType : StaysIn start (functionType fuel)
  functionInputs : ∀ first, StaysIn start (functionInputs fuel first)
  functionInput : ∀ first, StaysIn start (functionInput fuel first)

theorem typeExpr_stays (fuel : Nat) (types : TypesStay start fuel) (plus : Bool) :
    StaysIn start (typeExpr (fuel + 1) plus) := by
  cases types
  unfold typeExpr
  apply StaysIn.andThen inferInstance
  intro binder
  -- what comes after a branch is taken out of the branches and dealt with once
  lift_lets
  intro pointed unbound
  have stays_pointed (mutable : Bool) : StaysIn start (pointed mutable) := by
    unfold pointed
    infer_instance
  have stays_unbound (u : Unit) : StaysIn start (unbound u) := by
    apply StaysIn.andThen inferInstance
    intro trees
    infer_instance
  clear_value unbound
  infer_instance

theorem parenthesized_stays (fuel : Nat) (types : TypesStay start fuel) (plus : Bool) :
    StaysIn start (parenthesized (fuel + 1) plus) := by
  cases types
  unfold parenthesized
  apply StaysIn.andThen inferInstance
  intro content
  split
  · infer_instance
  split
  · infer_instance
  split
  · infer_instance
  apply StaysIn.andThen inferInstance
  intro found
  obtain ⟨first, others⟩ := found
  cases others with
  | some others => infer_instance
  | none =>
    apply StaysIn.andThen inferInstance
    intro plussed
    split
    · split <;> infer_instance
    · infer_instance

theorem argument_stays (fuel : Nat) (types : TypesStay start fuel) : StaysIn start (argument (fuel + 1)) := by
  cases types
  unfold argument
  apply StaysIn.andThen inferInstance
  intro trees
  split
  · infer_instance
  split
  · infer_instance
  apply StaysIn.andThen inferInstance
  intro t
  split <;> infer_instance

theorem parameter_stays (fuel : Nat) (types : TypesStay start fuel) : StaysIn start (parameter (fuel + 1)) := by
  cases types
  unfold parameter
  apply StaysIn.andThen inferInstance
  intro attributes
  apply StaysIn.andThen inferInstance
  intro trees
  split
  · infer_instance
  split
  · infer_instance
  apply StaysIn.andThen inferInstance
  intro name
  infer_instance

theorem functionInputs_stays (fuel : Nat) (types : TypesStay start fuel) (first : Bool) :
    StaysIn start (functionInputs (fuel + 1) first) := by
  cases types
  unfold functionInputs
  apply StaysIn.andThen inferInstance
  intro ended
  split
  · infer_instance
  apply StaysIn.andThen inferInstance
  intro attributes
  apply StaysIn.andThen inferInstance
  intro named
  infer_instance

theorem types_stay (fuel : Nat) : TypesStay start fuel := by
  induction fuel with
  | zero => constructor <;> intros <;> exact stays_fail start
  | succ fuel ih =>
    have types := ih
    cases ih
    constructor
    case typeExpr => exact typeExpr_stays start fuel types
    case parenthesized => exact parenthesized_stays start fuel types
    case firstElement => unfold firstElement; infer_instance
    case moreBounds => unfold moreBounds; infer_instance
    case arrayOrSlice => unfold arrayOrSlice; infer_instance
    case pathType => intros; unfold pathType; infer_instance
    case qualifiedPath => intros; unfold qualifiedPath; infer_instance
    case path => intros; unfold path; infer_instance
    case pathRest => intros; unfold pathRest; infer_instance
    case segment => intros; unfold segment; infer_instance
    case angled => unfold angled; infer_instance
    case argument => exact argument_stays start fuel types
    case traitObject => intros; unfold traitObject; infer_instance
    case bounds => intros; unfold bounds; infer_instance
    case bound => intros; unfold bound; infer_instance
    case traitBound => intros; unfold traitBound; infer_instance
    case calledArguments => unfold calledArguments; infer_instance
    case binderIf => unfold binderIf; infer_instance
    case parameter => exact parameter_stays start fuel types
    case functionType => unfold functionType; infer_instance
    case functionInputs => exact functionInputs_stays start fuel types
    case functionInput => intros; unfold functionInput; infer_instance

instance stays_typeExpr (fuel : Nat) (plus : Bool) : StaysIn start (typeExpr fuel plus) :=
  (types_stay start fuel).typeExpr plus
instance stays_qualifiedPath (fuel : Nat) (inExpr : Bool) : StaysIn start (qualifiedPath fuel inExpr) :=
  (types_stay start fuel).qualifiedPath inExpr
instance stays_path (fuel : Nat) (inExpr : Bool) : StaysIn start (path fuel inExpr) :=
  (types_stay start fuel).path inExpr
instance stays_angled (fuel : Nat) : StaysIn start (angled fuel) := (types_stay start fuel).angled
instance stays_bound (fuel : Nat) (captures : Bool) : StaysIn start (bound fuel captures) :=
  (types_stay start fuel).bound captures
instance stays_binderIf (fuel : Nat) : StaysIn start (binderIf fuel) := (types_stay start fuel).binderIf
instance stays_parameter (fuel : Nat) : StaysIn start (parameter fuel) := (types_stay start fuel).parameter
instance stays_moreBounds (fuel : Nat) : StaysIn start (moreBounds fuel) := (types_stay start fuel).moreBounds
instance stays_pathRest (fuel : Nat) (inExpr leaveCalls : Bool) : StaysIn start (pathRest fuel inExpr leaveCalls) :=
  (types_stay start fuel).pathRest inExpr leaveCalls
instance stays_segment (fuel : Nat) (inExpr : Bool) : StaysIn start (segment fuel inExpr) :=
  (types_stay start fuel).segment inExpr
instance stays_argument (fuel : Nat) : StaysIn start (argument fuel) := (types_stay start fuel).argument
instance stays_bounds (fuel : Nat) (plus captures : Bool) : StaysIn start (bounds fuel plus captures) :=
  (types_stay start fuel).bounds plus captures
instance stays_calledArguments (fuel : Nat) : StaysIn start (calledArguments fuel) :=
  (types_stay start fuel).calledArguments
instance stays_functionType (fuel : Nat) : StaysIn start (functionType fuel) := (types_stay start fuel).functionType
instance stays_functionInputs (fuel : Nat) (first : Bool) : StaysIn start (functionInputs fuel first) :=
  (types_stay start fuel).functionInputs first
instance stays_functionInput (fuel : Nat) (first : Bool) : StaysIn start (functionInput fuel first) :=
  (types_stay start fuel).functionInput first

instance stays_unaddedType : StaysIn start unaddedType := by unfold unaddedType; infer_instance
instance stays_valuePath : StaysIn start valuePath := by unfold valuePath; infer_instance

instance stays_anyGroupOf (delimiters : List Delimiter) : StaysIn start (anyGroupOf delimiters) := by
  unfold anyGroupOf
  apply StaysIn.andThen inferInstance
  intro tree
  cases tree <;> infer_instance

instance stays_block : StaysIn start block := by unfold block; infer_instance
instance stays_rangeEnd : StaysIn start rangeEnd := by unfold rangeEnd; infer_instance
instance stays_rangeIf : StaysIn start rangeIf := by unfold rangeIf; infer_instance

structure PatternsStay (fuel : Nat) : Prop where
  pattern : StaysIn start (pattern fuel)
  alternatives : StaysIn start (alternatives fuel)
  moreAlternatives : StaysIn start (moreAlternatives fuel)
  fieldPatterns : StaysIn start (fieldPatterns fuel)

theorem pattern_stays (fuel : Nat) (patterns : PatternsStay start fuel) : StaysIn start (pattern (fuel + 1)) := by
  cases patterns
  unfold pattern
  apply StaysIn.andThen inferInstance
  intro trees
  repeat' split
  all_goals infer_instance

theorem fieldPatterns_stays (fuel : Nat) (patterns : PatternsStay start fuel) :
    StaysIn start (fieldPatterns (fuel + 1)) := by
  cases patterns
  unfold fieldPatterns
  apply StaysIn.andThen inferInstance
  intro ended
  split
  · infer_instance
  apply StaysIn.andThen inferInstance
  intro attributes
  apply StaysIn.andThen inferInstance
  intro dots
  split
  · infer_instance
  apply StaysIn.andThen inferInstance
  intro boxed
  apply StaysIn.andThen inferInstance
  intro byRef
  apply StaysIn.andThen inferInstance
  intro mutable
  lift_lets
  intro bare ending
  have stays_ending (u : Unit) : StaysIn start (ending u) := by unfold ending; infer_instance
  clear_value bare ending
  apply StaysIn.andThen inferInstance
  intro numbered
  lift_lets
  intro named
  have stays_named (u : Unit) : StaysIn start (named u) := by unfold named; infer_instance
  clear_value named
  infer_instance

theorem patterns_stay (fuel : Nat) : PatternsStay start fuel := by
  induction fuel with
  | zero => constructor <;> exact stays_fail start
  | succ fuel ih =>
    have patterns := ih
    cases ih
    constructor
    case pattern => exact pattern_stays start fuel patterns
    case alternatives => unfold alternatives; infer_instance
    case moreAlternatives => unfold moreAlternatives; infer_instance
    case fieldPatterns => exact fieldPatterns_stays start fuel patterns

instance stays_pattern (fuel : Nat) : StaysIn start (pattern fuel) := (patterns_stay start fuel).pattern
instance stays_alternatives (fuel : Nat) : StaysIn start (alternatives fuel) :=
  (patterns_stay start fuel).alternatives

instance stays_borrow : StaysIn start borrow := by unfold borrow; infer_instance
instance stays_pathValue (structures : Bool) : StaysIn start (pathValue structures) := by
  unfold pathValue; infer_instance
instance stays_wordedBlock : StaysIn start wordedBlock := by unfold wordedBlock; infer_instance
instance stays_builtin : StaysIn start builtin := by unfold builtin; infer_instance
instance stays_selection : StaysIn start selection := by unfold selection; infer_instance
instance stays_closureWords : StaysIn start closureWords := by unfold closureWords; infer_instance

structure ExpressionsStay (fuel : Nat) : Prop where
  expression : ∀ structures, StaysIn start (expression fuel structures)
  expressionIf : ∀ braces structures, StaysIn start (expressionIf fuel braces structures)
  operand : ∀ structures, StaysIn start (operand fuel structures)
  range : ∀ structures, StaysIn start (range fuel structures)
  closure : ∀ structures, StaysIn start (closure fuel structures)
  closureInputs : StaysIn start (closureInputs fuel)
  control : StaysIn start (control fuel)
  condition : StaysIn start (condition fuel)
  labelled : StaysIn start (labelled fuel)
  jump : ∀ structures, StaysIn start (jump fuel structures)
  binding : ∀ structures, StaysIn start (binding fuel structures)
  afterOperand : ∀ structures, StaysIn start (afterOperand fuel structures)

theorem expressions_stay (fuel : Nat) : ExpressionsStay start fuel := by
  induction fuel with
  | zero => constructor <;> intros <;> exact stays_fail start
  | succ fuel ih =>
    cases ih
    constructor
    case expression => intros; unfold expression; infer_instance
    case expressionIf => intros; unfold expressionIf; infer_instance
    case operand => intros; unfold operand; infer_instance
    case range => intros; unfold range; infer_instance
    case closure => intros; unfold closure; infer_instance
    case closureInputs => unfold closureInputs; infer_instance
    case control => unfold control; infer_instance
    case condition => unfold condition; infer_instance
    case labelled => unfold labelled; infer_instance
    case jump => intros; unfold jump; infer_instance
    case binding => intros; unfold binding; infer_instance
    case afterOperand => intros; unfold afterOperand; infer_instance

instance stays_expression (fuel : Nat) (structures : Bool) : StaysIn start (expression fuel structures) :=
  (expressions_stay start fuel).expression structures

instance stays_value : StaysIn start value := by unfold value; infer_instance

instance stays_anyType : StaysIn start anyType := by unfold anyType; infer_instance
instance stays_output : StaysIn start output := by unfold output; infer_instance
instance stays_genericParameter : StaysIn start genericParameter := by unfold genericParameter; infer_instance
instance stays_generics : StaysIn start generics := by unfold generics; infer_instance
instance stays_anyBound : StaysIn start anyBound := by unfold anyBound; infer_instance
instance stays_wherePredicate : StaysIn start wherePredicate := by unfold wherePredicate; infer_instance
instance stays_whereClause : StaysIn start whereClause := by unfold whereClause; infer_instance
instance stays_receiver : StaysIn start receiver := by unfold receiver; infer_instance
instance stays_typedParam : StaysIn start typedParam := by unfold typedParam; infer_instance

-- What does not read as a receiver is read again from where it began.
instance stays_param : StaysIn start param := by
  unfold param
  apply StaysIn.andThen inferInstance
  intro attributes
  apply StaysIn.andThen inferInstance
  intro variadic
  split
  · infer_instance
  constructor
  intro ts a rest within run
  rw [get_bind_run] at run
  cases read : receiver ts with
  | none =>
    simp only [read] at run
    exact StaysIn.left_over ts a rest within run
  | some found =>
    simp only [read] at run
    cases run
    exact StaysIn.left_over ts found.1 found.2 within read

instance stays_params (first : Bool) (fuel : Nat) : StaysIn start (params first fuel) := by
  induction fuel generalizing first with
  | zero => exact stays_fail start
  | succ fuel ih =>
    unfold params
    apply StaysIn.andThen inferInstance
    intro ended
    split
    · infer_instance
    apply StaysIn.andThen inferInstance
    intro p
    cases p <;> infer_instance

instance stays_functionHeader : StaysIn start functionHeader := by
  unfold functionHeader
  apply StaysIn.andThen inferInstance
  intro isConst
  apply StaysIn.andThen inferInstance
  intro isAsync
  apply StaysIn.andThen inferInstance
  intro isUnsafe
  apply StaysIn.andThen inferInstance
  intro convention
  apply StaysIn.andThen inferInstance
  intro keyword
  infer_instance

instance stays_visibility : StaysIn start visibility := by
  unfold visibility
  apply StaysIn.andThen inferInstance
  intro shown
  split
  · apply StaysIn.andThen inferInstance
    intro trees
    split <;> infer_instance
  · infer_instance

instance stays_body : StaysIn start body := by unfold body; infer_instance
instance stays_namedFields : StaysIn start namedFields := by unfold namedFields; infer_instance
instance stays_tupleFields : StaysIn start tupleFields := by unfold tupleFields; infer_instance
instance stays_structureBody : StaysIn start structureBody := by unfold structureBody; infer_instance
instance stays_nameOrBlank : StaysIn start nameOrBlank := by unfold nameOrBlank; infer_instance

instance stays_macroItem (mayName : Bool) : StaysIn start (macroItem mayName) := by
  unfold macroItem
  apply StaysIn.andThen inferInstance
  intro path
  apply StaysIn.andThen inferInstance
  intro sign
  lift_lets
  intro ending
  have stays_ending (u : Unit) : StaysIn start (ending u) := by
    apply StaysIn.andThen inferInstance
    intro tree
    split <;> infer_instance
  clear_value ending
  infer_instance

instance stays_initializer : StaysIn start initializer := by unfold initializer; infer_instance
instance stays_constantItem : StaysIn start constantItem := by unfold constantItem; infer_instance
instance stays_boundsBefore (enough : List Tree → Bool) : StaysIn start (boundsBefore enough) := by
  unfold boundsBefore; infer_instance

instance stays_typeItem (before after : Bool) : StaysIn start (typeItem before after) := by
  unfold typeItem
  apply StaysIn.andThen inferInstance
  intro keyword
  apply StaysIn.andThen inferInstance
  intro name
  apply StaysIn.andThen inferInstance
  intro parameters
  apply StaysIn.andThen inferInstance
  intro bounded
  lift_lets
  intro ending bounds
  have stays_bounds (u : Unit) : StaysIn start (bounds u) := by
    unfold bounds
    apply StaysIn.andThen inferInstance
    intro early
    infer_instance
  clear_value bounds
  infer_instance

instance stays_useTree (fuel : Nat) (rootAllowed : Bool) : StaysIn start (useTree fuel rootAllowed) := by
  induction fuel generalizing rootAllowed with
  | zero => exact stays_fail start
  | succ fuel ih => unfold useTree; infer_instance

instance stays_useItem : StaysIn start useItem := by unfold useItem; infer_instance
instance stays_externCrate : StaysIn start externCrate := by unfold externCrate; infer_instance
instance stays_traitBody : StaysIn start traitBody := by unfold traitBody; infer_instance
instance stays_traitItem : StaysIn start traitItem := by
  unfold traitItem
  apply StaysIn.andThen inferInstance
  intro isUnsafe
  apply StaysIn.andThen inferInstance
  intro isAuto
  apply StaysIn.andThen inferInstance
  intro keyword
  infer_instance
instance stays_foreignItems : StaysIn start foreignItems := by unfold foreignItems; infer_instance
instance stays_implementedFunction : StaysIn start implementedFunction := by
  unfold implementedFunction; infer_instance
instance stays_member : StaysIn start member := by unfold member; infer_instance

instance stays_implementation : StaysIn start implementation := by
  unfold implementation
  apply StaysIn.andThen inferInstance
  intro shown
  apply StaysIn.andThen inferInstance
  intro isDefault
  apply StaysIn.andThen inferInstance
  intro isUnsafe
  apply StaysIn.andThen inferInstance
  intro keyword
  apply StaysIn.andThen inferInstance
  intro generic
  lift_lets
  intro ending
  have stays_ending (u : Unit) : StaysIn start (ending u) := by
    apply StaysIn.andThen inferInstance
    intro isConst
    lift_lets
    intro signed
    have stays_signed (u : Unit) : StaysIn start (signed u) := by
      apply StaysIn.andThen inferInstance
      intro negative
      infer_instance
    clear_value signed
    infer_instance
  clear_value ending
  infer_instance

instance stays_staticItem : StaysIn start staticItem := by unfold staticItem; infer_instance
instance stays_functionItem : StaysIn start functionItem := by unfold functionItem; infer_instance
instance stays_macroDeclaration : StaysIn start macroDeclaration := by unfold macroDeclaration; infer_instance
instance stays_structureItem : StaysIn start structureItem := by unfold structureItem; infer_instance
instance stays_enumItem : StaysIn start enumItem := by unfold enumItem; infer_instance
instance stays_unionItem : StaysIn start unionItem := by unfold unionItem; infer_instance
instance stays_other (p : Parser Unit) [StaysIn start p] : StaysIn start (other p) := by unfold other; infer_instance

instance stays_implementationItem : StaysIn start (implementationItem start) := by
  unfold implementationItem
  apply StaysIn.andThen inferInstance
  intro u
  apply StaysIn.andThen inferInstance
  intro found
  cases found <;> infer_instance

structure ItemsStay (fuel : Nat) : Prop where
  item : ∀ start, StaysIn start (item fuel)
  module : ∀ start, StaysIn start (module fuel)

theorem items_stay (fuel : Nat) : ItemsStay fuel := by
  induction fuel with
  | zero => constructor <;> intro start <;> exact stays_fail start
  | succ fuel ih =>
    cases ih
    constructor
    case item =>
      intro start
      unfold item
      apply StaysIn.andThen inferInstance
      intro attributes
      infer_instance
    case module => intro start; unfold module; infer_instance

end Parser

end ResourceRoutes.Source
