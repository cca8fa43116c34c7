import ResourceRoutes.Json.Reader
import ResourceRoutes.Proofs.Json.Token
set_option autoImplicit false

namespace ResourceRoutes.Json

namespace Reading

theorem run_cons (reading next : Reading) (token : Token) (rest : List Token)
    (stepped : reading.step? token = some next) : reading.run (token :: rest) = next.run rest := by
  rw [run, stepped]

structure Expects (reading : Reading) (frames : List Frame) : Prop where
  frames_eq : reading.frames = frames
  awaits : reading.awaited = .value ∨ reading.awaited = .valueOrClose

theorem step_value (reading next : Reading) (frames : List Frame) (token : Token) (expects : reading.Expects frames)
    (begins : beginValue? frames token = some next) : reading.step? token = some next := by
  obtain ⟨rfl, value | valueOrClose⟩ := expects
  · rw [step?.eq_def, value]
    exact begins
  · rw [step?.eq_def, valueOrClose]
    cases token <;> first | exact begins | cases begins

mutual
theorem run_tokens (reading : Reading) (frames : List Frame) (value : Json) (rest : List Token)
    (expects : reading.Expects frames) : reading.run (value.tokens ++ rest) = (put frames value).run rest := by
  cases value with
  | null => exact run_cons _ _ _ _ (step_value _ _ frames _ expects rfl)
  | bool value => exact run_cons _ _ _ _ (step_value _ _ frames _ expects rfl)
  | number spelling => exact run_cons _ _ _ _ (step_value _ _ frames _ expects rfl)
  | string spelling => exact run_cons _ _ _ _ (step_value _ _ frames _ expects rfl)
  | array items =>
    rw [tokens, List.append_assoc, List.cons_append,
      run_cons _ _ _ _ (step_value _ _ frames _ expects rfl)]
    by_cases none : items = []
    · subst none
      rfl
    · exact run_items ⟨.valueOrClose, .array [] :: frames, .none⟩ [] frames items rest none ⟨rfl, .inr rfl⟩
  | object members =>
    rw [tokens, List.append_assoc, List.cons_append,
      run_cons _ _ _ _ (step_value _ _ frames _ expects rfl)]
    by_cases none : members = []
    · subst none
      rfl
    · exact run_members ⟨.keyOrClose, .object [] .none :: frames, .none⟩ [] .none frames members rest none rfl
        (.inl rfl)

theorem run_items (reading : Reading) (before : List Json) (outer : List Frame) (items : List Json)
    (rest : List Token) (present : items ≠ []) (expects : reading.Expects (.array before :: outer)) :
    reading.run (itemTokens items ++ .closeArray :: rest) =
      (put outer (.array (before.reverse ++ items))).run rest := by
  match items with
  | [] => exact absurd rfl present
  | [item] =>
    rw [itemTokens, run_tokens reading _ item _ expects, put,
      run_cons _ (put outer (.array (item :: before).reverse)) _ _ rfl, List.reverse_cons]
  | item :: next :: others =>
    simp only [itemTokens, List.append_assoc, List.cons_append]
    rw [run_tokens reading _ item _ expects, put, run_cons _ ⟨.value, .array (item :: before) :: outer, none⟩ _ _ rfl,
      run_items ⟨.value, .array (item :: before) :: outer, none⟩ (item :: before) outer (next :: others) rest
        (by simp) ⟨rfl, .inl rfl⟩]
    simp

theorem run_members (reading : Reading) (before : List (List Char × Json)) (key : Option (List Char))
    (outer : List Frame) (members : List (List Char × Json)) (rest : List Token) (present : members ≠ [])
    (frames : reading.frames = .object before key :: outer)
    (awaits : reading.awaited = .keyOrClose ∨ reading.awaited = .key) :
    reading.run (memberTokens members ++ .closeObject :: rest) =
      (put outer (.object (before.reverse ++ members))).run rest := by
  have named (name : List Char) :
      reading.step? (.string name) = some ⟨.colon, .object before (some name) :: outer, none⟩ := by
    rcases awaits with awaits | awaits <;> rw [step?.eq_def, awaits, frames] <;> rfl
  match members with
  | [] => exact absurd rfl present
  | [(name, value)] =>
    simp only [memberTokens, List.cons_append]
    rw [run_cons _ _ _ _ (named name), run_cons _ _ _ _ rfl,
      run_tokens _ (.object before (some name) :: outer) value _ ⟨rfl, .inl rfl⟩, put,
      run_cons _ (put outer (.object ((name, value) :: before).reverse)) _ _ rfl, List.reverse_cons]
  | (name, value) :: next :: others =>
    simp only [memberTokens, List.append_assoc, List.cons_append]
    rw [run_cons _ _ _ _ (named name), run_cons _ _ _ _ rfl,
      run_tokens _ (.object before (some name) :: outer) value _ ⟨rfl, .inl rfl⟩, put,
      run_cons _ ⟨.key, .object ((name, value) :: before) none :: outer, none⟩ _ _ rfl,
      run_members ⟨.key, .object ((name, value) :: before) none :: outer, none⟩ ((name, value) :: before) none outer
        (next :: others) rest (by simp) rfl (.inr rfl)]
    simp
end

end Reading

theorem read_laid (layout : Layout) (value : Json) (blanks : List Char) (spelled : value.Spelled)
    (blank : ∀ c ∈ blanks, Token.isBlank c = true) : read? (laid layout 0 value ++ blanks) = some value := by
  have bounded : Bounded blanks := by
    intro c first
    exact blank_other c (blank c (List.mem_of_mem_head? first))
  have scan : Token.scan (laid layout 0 value ++ blanks) = (value.tokens, true) := by
    have trailing := Token.scanned_blanks value.tokens.reverse blanks [] blank
    rw [List.append_nil, Token.scanned_nil] at trailing
    rw [Token.scan_eq, scanned_laid layout [] 0 value blanks spelled bounded, List.append_nil, trailing]
    simp
  have run := Reading.run_tokens {} [] value [] ⟨rfl, .inl rfl⟩
  rw [List.append_nil] at run
  rw [read?, readResult, scan]
  simp only [run]
  rfl

theorem read_pretty (value : Json) (blanks : List Char) (spelled : value.Spelled)
    (blank : ∀ c ∈ blanks, Token.isBlank c = true) : read? (pretty 0 value ++ blanks) = some value := by
  rw [pretty_laid]
  exact read_laid .manyLines value blanks spelled blank

theorem read_compact (value : Json) (blanks : List Char) (spelled : value.Spelled)
    (blank : ∀ c ∈ blanks, Token.isBlank c = true) : read? (compact value ++ blanks) = some value := by
  rw [compact_laid 0]
  exact read_laid .oneLine value blanks spelled blank

end ResourceRoutes.Json
