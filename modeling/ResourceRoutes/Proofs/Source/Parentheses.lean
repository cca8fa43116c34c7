import Mathlib.Data.List.Forall2
import ResourceRoutes.Proofs.Source.Recognition
set_option autoImplicit false

/- Redundant parentheses show in the text of a type without a role, and nowhere else. -/
namespace ResourceRoutes

def ParamKind.untold : ParamKind → ParamKind
  | .other _ => .other ""
  | kind => kind

def ReturnKind.untold : ReturnKind → ReturnKind
  | .other _ => .other ""
  | .bool => .bool

def Signature.untold (sig : Signature) : Signature :=
  ⟨sig.params.map ParamKind.untold, sig.returns.map ReturnKind.untold⟩

def SignatureError.untold : SignatureError → SignatureError
  | .wrongReturnType expected _ => .wrongReturnType expected ""
  | .wrongParamType position expected _ => .wrongParamType position expected ""
  | error => error

def SignatureError.position? : SignatureError → Option Nat
  | .wrongParamType position _ _ => some position
  | _ => none

inductive SameVerdict : Except SignatureError Unit → Except SignatureError Unit → Prop where
  | passed : SameVerdict (.ok ()) (.ok ())
  | failed (first second : SignatureError) (kind : first.kind = second.kind)
      (position : first.position? = second.position?) : SameVerdict (.error first) (.error second)

theorem untold_kind (error : SignatureError) : error.untold.kind = error.kind := by
  cases error <;> rfl

theorem untold_position (error : SignatureError) : error.untold.position? = error.position? := by
  cases error <;> rfl

theorem same_verdict_of_untold (first second : Except SignatureError Unit)
    (same : first.mapError SignatureError.untold = second.mapError SignatureError.untold) :
    SameVerdict first second := by
  cases first with
  | ok =>
    cases second with
    | ok => exact .passed
    | error => cases same
  | error e =>
    cases second with
    | ok => cases same
    | error e' =>
      have untold : e.untold = e'.untold := Except.error.inj same
      apply SameVerdict.failed
      · rw [← untold_kind, untold, untold_kind]
      · rw [← untold_position, untold, untold_position]

namespace Signature

theorem check_returns_untold (returns : List ReturnKind) (rule : Rule) :
    (checkReturns (returns.map ReturnKind.untold) rule).mapError SignatureError.untold =
      (checkReturns returns rule).mapError SignatureError.untold := by
  cases rule with
  | handler => cases returns <;> simp [checkReturns]
  | hook =>
    cases returns with
    | nil => rfl
    | cons first rest =>
      cases rest with
      | nil => cases first <;> rfl
      | cons => simp [checkReturns]

theorem check_slot_untold (position : Nat) (slot : Slot) (param : ParamKind) :
    (checkSlot position slot param.untold).mapError SignatureError.untold =
      (checkSlot position slot param).mapError SignatureError.untold := by
  cases slot <;> cases param <;> rfl

theorem map_error_bind (first first' second second' : Except SignatureError Unit)
    (same : first.mapError SignatureError.untold = first'.mapError SignatureError.untold)
    (same_next : second.mapError SignatureError.untold = second'.mapError SignatureError.untold) :
    (first >>= fun _ => second).mapError SignatureError.untold =
      (first' >>= fun _ => second').mapError SignatureError.untold := by
  cases first with
  | ok =>
    cases first' with
    | ok => exact same_next
    | error => cases same
  | error =>
    cases first' with
    | ok => cases same
    | error => exact same

theorem check_params_untold (params : List ParamKind) :
    (checkParams (params.map ParamKind.untold)).mapError SignatureError.untold =
      (checkParams params).mapError SignatureError.untold := by
  match params with
  | [] => rfl
  | [_] => rfl
  | [writer, request] =>
    apply map_error_bind
    · exact check_slot_untold 1 .writer writer
    · exact check_slot_untold 2 .request request
  | [leading, writer, request] =>
    apply map_error_bind
    · exact check_slot_untold 1 .context leading
    apply map_error_bind
    · exact check_slot_untold 2 .writer writer
    · exact check_slot_untold 3 .request request
  | _ :: _ :: _ :: _ :: _ => simp [checkParams]

theorem validate_untold (sig : Signature) (rule : Rule) (skipReceiver : Bool) :
    (sig.untold.validate rule skipReceiver).mapError SignatureError.untold =
      (sig.validate rule skipReceiver).mapError SignatureError.untold := by
  have effective : sig.untold.effectiveParams skipReceiver =
      (sig.effectiveParams skipReceiver).map ParamKind.untold := by
    cases skipReceiver with
    | false => rfl
    | true => exact (List.map_drop ..).symm
  apply map_error_bind
  · exact check_returns_untold sig.returns rule
  · rw [effective]
    exact check_params_untold _

end Signature

namespace Source

inductive Wrapped : TypeExpr → TypeExpr → Prop where
  | same (t : TypeExpr) : Wrapped t t
  | around (t u : TypeExpr) (inner : Wrapped t u) : Wrapped t (.paren u)
  | inside (t u : TypeExpr) (inner : Wrapped t u) : Wrapped (.paren t) (.paren u)
  | referent (lifetime : Option (List Char)) (mutable : Bool) (t u : TypeExpr) (inner : Wrapped t u) :
      Wrapped (.reference lifetime mutable t) (.reference lifetime mutable u)
  | boxed (isGlobal : Bool) (leading : List Segment) (separated : Bool) (t u : TypeExpr) (trailing : Bool)
      (inner : Wrapped t u) :
      Wrapped (.path isGlobal (leading ++ [boxOf separated t trailing]))
        (.path isGlobal (leading ++ [boxOf separated u trailing]))
  | qualifiedBox (self : TypeExpr) (isGlobal : Bool) (traitPath leading : List Segment) (separated : Bool)
      (t u : TypeExpr) (trailing : Bool) (inner : Wrapped t u) :
      Wrapped (.qualified self isGlobal traitPath (leading ++ [boxOf separated t trailing]))
        (.qualified self isGlobal traitPath (leading ++ [boxOf separated u trailing]))
  | elements (ts us : List TypeExpr) (trailing : Bool) (count : ts.length = us.length)
      (each : ∀ (i : Nat) (t u : TypeExpr), ts[i]? = some t → us[i]? = some u → Wrapped t u) :
      Wrapped (.tuple ts trailing) (.tuple us trailing)

inductive Param.WrappedAs : Param → Param → Prop where
  | receiver (trees trees' : List Tree) : Param.WrappedAs (.receiver trees) (.receiver trees')
  | typed (t u : TypeExpr) (wrapped : Wrapped t u) : Param.WrappedAs (.typed t) (.typed u)

structure FunctionHeader.WrappedAs (header header' : FunctionHeader) : Prop where
  params : List.Forall₂ Param.WrappedAs header.params header'.params
  output : Option.Rel Wrapped header.output header'.output

variable {t u : TypeExpr}

theorem wrapped_named (name : List Char) (wrapped : Wrapped t u) : t.isNamed name = u.isNamed name := by
  induction wrapped with
  | around _ _ _ ih => exact ih
  | inside _ _ _ ih => exact ih
  | boxed => simp [TypeExpr.isNamed, TypeExpr.stripParens, endsIn, boxOf, Segment.name]
  | _ => rfl

theorem wrapped_writer (name : List Char) (wrapped : Wrapped t u) :
    t.stripParens.namesTypeOrTrait name = u.stripParens.namesTypeOrTrait name := by
  induction wrapped with
  | around _ _ _ ih => exact ih
  | inside _ _ _ ih => exact ih
  | boxed => simp [TypeExpr.stripParens, TypeExpr.namesTypeOrTrait, endsIn, boxOf, Segment.name]
  | _ => rfl

theorem wrapped_box (names : TypeNames) (leading : List Segment) (separated trailing : Bool)
    (wrapped : Wrapped t u) :
    names.isBoxedRequest (leading ++ [boxOf separated t trailing]) =
      names.isBoxedRequest (leading ++ [boxOf separated u trailing]) := by
  simp [TypeNames.isBoxedRequest, endsIn, onlyArgument?, boxOf, Segment.name, wrapped_named _ wrapped]

theorem wrapped_role (names : TypeNames) (wrapped : Wrapped t u) : names.role? t = names.role? u := by
  induction wrapped with
  | same => rfl
  | around _ _ _ ih => exact ih
  | inside _ _ _ ih => exact ih
  | referent lifetime mutable t u inner =>
    simp only [TypeNames.role?, TypeExpr.stripParens, wrapped_writer _ inner, wrapped_named _ inner]
  | boxed isGlobal leading separated t u trailing inner =>
    have named (held : TypeExpr) : endsIn (leading ++ [boxOf separated held trailing]) names.contextName =
        ("Box".toList == names.contextName) := by
      simp [endsIn, boxOf, Segment.name]
    simp only [TypeNames.role?, TypeExpr.stripParens, named, wrapped_box names leading separated trailing inner]
  | qualifiedBox self isGlobal traitPath leading separated t u trailing inner =>
    simp only [TypeNames.role?, TypeExpr.stripParens, wrapped_box names leading separated trailing inner]
  | elements => rfl

theorem wrapped_param (names : TypeNames) (wrapped : Wrapped t u) :
    (names.classifyParam t).untold = (names.classifyParam u).untold := by
  rw [TypeNames.classifyParam, TypeNames.classifyParam, wrapped_role names wrapped]
  cases names.role? u <;> rfl

theorem wrapped_bool (wrapped : Wrapped t u) : t.isBool = u.isBool := by
  induction wrapped with
  | around _ _ _ ih => exact ih
  | inside _ _ _ ih => exact ih
  | boxed isGlobal leading separated t u trailing inner =>
    cases isGlobal <;> cases leading <;> simp [TypeExpr.isBool, TypeExpr.stripParens, boxOf]
  | _ => rfl

theorem wrapped_return (wrapped : Wrapped t u) : (classifyReturn t).untold = (classifyReturn u).untold := by
  rw [classifyReturn, classifyReturn, wrapped_bool wrapped]
  cases u.isBool <;> rfl

theorem output_in_parens (t : TypeExpr) :
    (classifyOutput (some (.paren t))).map ReturnKind.untold = (classifyOutput (some t)).map ReturnKind.untold := by
  have alone : (classifyReturn (.paren t)).untold = (classifyReturn t).untold :=
    (wrapped_return (.around t t (.same t))).symm
  rw [classifyOutput, classifyOutput, TypeExpr.stripParens]
  cases t.stripParens <;> simp [alone]

theorem wrapped_elements (ts us : List TypeExpr) (count : ts.length = us.length)
    (each : ∀ (i : Nat) (t u : TypeExpr), ts[i]? = some t → us[i]? = some u → Wrapped t u) :
    (ts.map classifyReturn).map ReturnKind.untold = (us.map classifyReturn).map ReturnKind.untold := by
  apply List.ext_getElem
  · simpa using count
  · intro i before before'
    have inside : i < ts.length := by simpa using before
    have inside' : i < us.length := by simpa using before'
    have element := each i _ _ (List.getElem?_eq_getElem inside) (List.getElem?_eq_getElem inside')
    simpa using wrapped_return element

theorem wrapped_output (wrapped : Wrapped t u) :
    (classifyOutput (some t)).map ReturnKind.untold = (classifyOutput (some u)).map ReturnKind.untold := by
  induction wrapped with
  | same => rfl
  | around t u _ ih => exact ih.trans (output_in_parens u).symm
  | inside t u _ ih => rw [output_in_parens, output_in_parens, ih]
  | elements ts us _ count each => exact wrapped_elements ts us count each
  | referent lifetime mutable t u inner =>
    exact congrArg (fun kind => [kind]) (wrapped_return (.referent lifetime mutable t u inner))
  | boxed isGlobal leading separated t u trailing inner =>
    exact congrArg (fun kind => [kind]) (wrapped_return (.boxed isGlobal leading separated t u trailing inner))
  | qualifiedBox self isGlobal traitPath leading separated t u trailing inner =>
    exact congrArg (fun kind => [kind])
      (wrapped_return (.qualifiedBox self isGlobal traitPath leading separated t u trailing inner))

theorem wrapped_params (names : TypeNames) (params params' : List Param)
    (wrapped : List.Forall₂ Param.WrappedAs params params') :
    (params.map (Param.kind names)).map ParamKind.untold = (params'.map (Param.kind names)).map ParamKind.untold := by
  induction wrapped with
  | nil => rfl
  | cons first _ ih =>
    cases first with
    | receiver => exact congrArg (.other "" :: ·) ih
    | typed t u inner => exact congrArg₂ List.cons (wrapped_param names inner) ih

theorem wrapped_outputs (output output' : Option TypeExpr) (wrapped : Option.Rel Wrapped output output') :
    (classifyOutput output).map ReturnKind.untold = (classifyOutput output').map ReturnKind.untold := by
  cases wrapped with
  | none => rfl
  | some inner => exact wrapped_output inner

theorem wrapped_description (names : TypeNames) (header header' : FunctionHeader) (wrapped : header.WrappedAs header') :
    (header.describe names).untold = (header'.describe names).untold := by
  rw [Signature.untold, Signature.untold, describe_params, describe_params, Signature.mk.injEq]
  constructor
  · exact wrapped_params names header.params header'.params wrapped.params
  · exact wrapped_outputs header.output header'.output wrapped.output

theorem parentheses_change_no_verdict (names : TypeNames) (header header' : FunctionHeader)
    (wrapped : header.WrappedAs header') :
    (header.describe names).untold = (header'.describe names).untold ∧
      ∀ (rule : Rule) (skipReceiver : Bool), SameVerdict ((header.describe names).validate rule skipReceiver)
        ((header'.describe names).validate rule skipReceiver) := by
  have untold := wrapped_description names header header' wrapped
  refine ⟨untold, ?_⟩
  intro rule skipReceiver
  apply same_verdict_of_untold
  rw [← Signature.validate_untold, untold, Signature.validate_untold]

def typeNamed (name : String) : TypeExpr := .path false [.mk name.toList .none]

def boxed (held : TypeExpr) : TypeExpr := .path false [boxOf false held false]

-- `fn put(&self, w: &mut dyn ResponseWriter, r: Box<Request>) -> (bool, u8)`
def bareHeader : FunctionHeader where
  name := "put".toList
  params := [.receiver (Tree.op "&" ++ [.word "self"]),
    .typed (.reference none true (.traitObject true [.trait false [] false [.mk "ResponseWriter".toList .none]] false)),
    .typed (boxed (typeNamed "Request"))]
  variadic := false
  output := some (.tuple [typeNamed "bool", typeNamed "u8"] false)

-- `fn put(&self, w: (&mut ((dyn ResponseWriter))), r: Box<((Request))>) -> (((bool), u8))`
def wrappedHeader : FunctionHeader where
  name := "put".toList
  params := [.receiver (Tree.op "&" ++ [.word "self"]),
    .typed (.paren (.reference none true
      (.paren (.paren (.traitObject true [.trait false [] false [.mk "ResponseWriter".toList .none]] false))))),
    .typed (boxed (.paren (.paren (typeNamed "Request"))))]
  variadic := false
  output := some (.paren (.tuple [.paren (typeNamed "bool"), typeNamed "u8"] false))

theorem wrapped_header_same_verdict :
    bareHeader.WrappedAs wrappedHeader ∧ (bareHeader.describe {}).untold = (wrappedHeader.describe {}).untold ∧
      ∀ (rule : Rule) (skipReceiver : Bool), SameVerdict ((bareHeader.describe {}).validate rule skipReceiver)
        ((wrappedHeader.describe {}).validate rule skipReceiver) := by
  have twice (t : TypeExpr) : Wrapped t (.paren (.paren t)) := .around t _ (.around t t (.same t))
  have wrapped : bareHeader.WrappedAs wrappedHeader := by
    constructor
    · refine .cons (.receiver _ _) (.cons (.typed _ _ ?_) (.cons (.typed _ _ ?_) .nil))
      · exact .around _ _ (.referent none true _ _ (twice _))
      · exact .boxed false [] false _ _ false (twice _)
    · refine .some (.around _ _ (.elements _ _ false rfl ?_))
      intro i t u found found'
      match i with
      | 0 =>
        cases found
        cases found'
        exact .around _ _ (.same _)
      | 1 =>
        cases found
        cases found'
        exact .same _
      | _ + 2 => cases found
  exact ⟨wrapped, parentheses_change_no_verdict {} bareHeader wrappedHeader wrapped⟩

end Source

end ResourceRoutes
