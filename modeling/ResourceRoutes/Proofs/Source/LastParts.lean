import ResourceRoutes.Proofs.Source.Attachment
set_option autoImplicit false

namespace ResourceRoutes.Source

-- What stands behind the last separator, or the whole path. Of three colons in a row the last two are the separator.
inductive LastPart : List Char → List Char → Prop where
  | whole (path : List Char) (plain : ¬ "::".toList <:+: path) : LastPart path path
  | behind (leading last : List Char) (final : ¬ "::".toList <:+: ':' :: last) :
      LastPart (leading ++ ':' :: ':' :: last) last

structure SameLastParts (a b : TypeNames) : Prop where
  context : ∃ last, LastPart a.context.toList last ∧ LastPart b.context.toList last
  writer : ∃ last, LastPart a.responseWriter.toList last ∧ LastPart b.responseWriter.toList last
  request : ∃ last, LastPart a.request.toList last ∧ LastPart b.request.toList last

theorem separator_infix_cons (c : Char) (rest : List Char) :
    "::".toList <:+: c :: rest ↔ (c = ':' ∧ rest.head? = some ':') ∨ "::".toList <:+: rest := by
  rw [List.infix_cons_iff]
  apply or_congr_left
  cases rest with
  | nil => simp
  | cons d rest => simp [eq_comm]

theorem after_separator_none_iff (path : List Char) : afterSeparator? path = none ↔ ¬ "::".toList <:+: path := by
  induction path with
  | nil => simp [afterSeparator?]
  | cons c rest ih =>
    rw [separator_infix_cons, not_or, ← ih, afterSeparator?]
    by_cases here : c = ':' ∧ rest.head? = some ':'
    · cases afterSeparator? rest <;> simp [here]
    · cases afterSeparator? rest <;> simp [here]

theorem after_separator_behind (leading last : List Char) (final : ¬ "::".toList <:+: ':' :: last) :
    afterSeparator? (leading ++ ':' :: ':' :: last) = some last := by
  induction leading with
  | nil =>
    rw [List.nil_append, afterSeparator?, (after_separator_none_iff _).mpr final]
    rfl
  | cons c leading ih => rw [List.cons_append, afterSeparator?, ih]

theorem after_separator_splits (path last : List Char) (found : afterSeparator? path = some last) :
    ∃ leading, path = leading ++ ':' :: ':' :: last ∧ ¬ "::".toList <:+: ':' :: last := by
  induction path with
  | nil => cases found
  | cons c rest ih =>
    rw [afterSeparator?] at found
    cases later : afterSeparator? rest with
    | some other =>
      rw [later] at found
      cases found
      obtain ⟨leading, rfl, final⟩ := ih later
      exact ⟨c :: leading, rfl, final⟩
    | none =>
      rw [later] at found
      by_cases here : c = ':' ∧ rest.head? = some ':'
      · obtain ⟨rfl, opened⟩ := here
        obtain ⟨tail, rfl⟩ := List.head?_eq_some_iff.mp opened
        obtain rfl : tail = last := by simpa using found
        exact ⟨[], rfl, (after_separator_none_iff _).mp later⟩
      · simp [here] at found

theorem last_part_iff (path last : List Char) : LastPart path last ↔ lastSegment path = last := by
  constructor
  · intro part
    cases part with
    | whole _ plain => rw [lastSegment, (after_separator_none_iff path).mpr plain, Option.getD_none]
    | behind leading _ final => rw [lastSegment, after_separator_behind leading last final, Option.getD_some]
  · intro part
    subst part
    cases found : afterSeparator? path with
    | none =>
      rw [lastSegment, found, Option.getD_none]
      exact .whole path ((after_separator_none_iff path).mp found)
    | some last =>
      obtain ⟨leading, rfl, final⟩ := after_separator_splits path last found
      rw [lastSegment, found, Option.getD_some]
      exact .behind leading last final

theorem last_segments_agree (first second : List Char)
    (same : ∃ last, LastPart first last ∧ LastPart second last) : lastSegment first = lastSegment second := by
  obtain ⟨last, of_first, of_second⟩ := same
  exact ((last_part_iff first last).mp of_first).trans ((last_part_iff second last).mp of_second).symm

theorem classify_param_agrees (a b : TypeNames) (same : SameLastParts a b) : a.classifyParam = b.classifyParam := by
  have context : a.contextName = b.contextName := last_segments_agree _ _ same.context
  have writer : a.writerName = b.writerName := last_segments_agree _ _ same.writer
  have request : a.requestName = b.requestName := last_segments_agree _ _ same.request
  have boxed : a.isBoxedRequest = b.isBoxedRequest := by
    funext segments
    rw [TypeNames.isBoxedRequest, TypeNames.isBoxedRequest, request]
  funext t
  rw [TypeNames.classifyParam, TypeNames.classifyParam, TypeNames.role?, TypeNames.role?, context, writer, request,
    boxed]

theorem describe_agrees (a b : TypeNames) (same : SameLastParts a b) (header : FunctionHeader) :
    header.describe a = header.describe b := by
  simp only [FunctionHeader.describe, classify_param_agrees a b same]

theorem describe_type_agrees (a b : TypeNames) (same : SameLastParts a b) (items : List Item) (target : List Char) :
    describeType a items target = describeType b items target := by
  apply Descriptor.eq_of_get
  intro method
  rw [get_describe_type, get_describe_type]
  apply Option.map_congr
  intro header _
  rw [described, described, describe_agrees a b same]

theorem resources_agree (a b : TypeNames) (same : SameLastParts a b) (items : List Item)
    (before declared : List (List Char)) : resourcesOf a items before declared = resourcesOf b items before declared := by
  induction declared generalizing before with
  | nil => rfl
  | cons target rest ih => rw [resourcesOf, resourcesOf, describe_type_agrees a b same, ih]

theorem discovery_by_last_parts (a b : TypeNames) (same : SameLastParts a b) (text : String) :
    discover? a text = discover? b text := by
  rw [discover?, discover?]
  apply Option.map_congr
  intro items _
  exact resources_agree a b same items [] (structureNames items)

def qualifiedNames : TypeNames := ⟨"Ctx", "web::http:::Out", "::Query"⟩

def bareNames : TypeNames := ⟨"a::Ctx", "Out", "Query"⟩

def customized : String :=
  "struct S;impl S{fn put(&self,c:Ctx,w:&mut dyn (io::Out),q:Box<x::Query>){} fn get(w:&mut ResponseWriter){}}"

theorem qualified_names_find_the_same :
    SameLastParts qualifiedNames bareNames ∧ discover? qualifiedNames customized = discover? bareNames customized ∧
      discover? bareNames customized = some [⟨"S", .ofList
        [("Put", .function ⟨[.other "&self", .context, .responseWriter, .requestPointer], []⟩),
          ("Get", .function ⟨[.other "&mut ResponseWriter"], []⟩)]⟩] := by
  have same : SameLastParts qualifiedNames bareNames := by
    refine ⟨⟨"Ctx".toList, ?_⟩, ⟨"Out".toList, ?_⟩, ⟨"Query".toList, ?_⟩⟩ <;>
      exact ⟨(last_part_iff _ _).mpr (by decide), (last_part_iff _ _).mpr (by decide)⟩
  exact ⟨same, discovery_by_last_parts qualifiedNames bareNames same customized, by decide +kernel⟩

end ResourceRoutes.Source
