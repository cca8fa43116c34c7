import ResourceRoutes.Proofs.Yaml.Token.Scalar
set_option autoImplicit false

namespace ResourceRoutes.Yaml

open Yaml.Text (spaces)

namespace Scan

inductive Opens (column : Nat) (start : Token) (tokens : List Token) : List Nat → List Token → List Nat → Prop
  | before (indents : List Nat) : Opens column start tokens (column :: indents) tokens (column :: indents)
  | now (indents : List Nat) (inside : ∀ h ∈ indents.head?, h < column) :
      Opens column start tokens indents (start :: tokens) (column :: indents)

theorem opens_block (scan : Scan) (column : Nat) (outside : scan.outerKeys = [])
    (tokens opened : List Token) (indents blocks : List Nat) (start : Token) (held : scan.indents = indents)
    (opens : Opens column start tokens indents opened blocks) :
    (scan.opensBlock column = true ∧ opened = start :: tokens ∧ blocks = column :: indents) ∨
      (scan.opensBlock column = false ∧ opened = tokens ∧ blocks = indents) := by
  cases opens with
  | before =>
    right
    simp [opensBlock, held]
  | now _ inside =>
    left
    refine ⟨?_, rfl, rfl⟩
    cases indents with
    | nil => simp [opensBlock, inFlow, outside, held]
    | cons h indents =>
      have inner := inside h rfl
      simp [opensBlock, inFlow, outside, held, inner]

theorem opens_head (column : Nat) (start : Token) (tokens opened : List Token) (indents blocks : List Nat)
    (opens : Opens column start tokens indents opened blocks) : ∃ outer, blocks = column :: outer := by
  cases opens with
  | before outer => exact ⟨outer, rfl⟩
  | now => exact ⟨indents, rfl⟩

theorem opens_within (column : Nat) (start : Token) (tokens opened : List Token) (indents blocks : List Nat)
    (opens : Opens column start tokens indents opened blocks) : ∀ h ∈ indents.head?, h ≤ column := by
  cases opens with
  | before outer =>
    rintro h ⟨⟩
    exact Nat.le_refl _
  | now _ inside => exact fun h first => Nat.le_of_lt (inside h first)

theorem fetch_entry (scan : Scan) (rest : List Char) (here : scan.at'.rest = '-' :: ' ' :: rest) :
    scan.fetch? '-' (' ' :: rest) = scan.fetchBlockEntry? := by
  have start : scan.at'.marksDocument '-' = false := by simp [Cursor.marksDocument, here]
  have stop := marks_other scan.at' '.' '-' _ here (by decide)
  simp [fetch?, start, stop, gapFollows, isBlank]

theorem read_entry (scan : Scan) (rest : List Char) (column : Nat) (tokens opened : List Token)
    (indents blocks : List Nat) (here : At scan ('-' :: ' ' :: rest) column tokens indents)
    (allowed : scan.keyAllowed = true) (begins : Begins rest)
    (opens : Opens column .blockSequenceStart tokens indents opened blocks) :
    ∃ next, Advances scan next ∧ At next rest (column + 2) (.blockEntry :: opened) blocks ∧ next.keyAllowed = true := by
  obtain ⟨outer, blocks_eq⟩ := opens_head _ _ _ _ _ _ opens
  obtain ⟨starts, rfl, rfl, rfl, unkeyed, outside⟩ := here
  have head : ∀ h ∈ blocks.head?, h ≤ scan.at'.column + 1 + 1 := by
    rw [blocks_eq]
    rintro h ⟨⟩
    omega
  let entered : Scan := { scan with
    at' := scan.at'.skip 1, tokens := .blockEntry :: opened, indents := blocks, keyAllowed := true }
  have fetch : scan.fetch? '-' (' ' :: rest) = some entered := by
    rw [fetch_entry scan rest starts, fetchBlockEntry?]
    rcases opens_block scan _ outside _ _ _ _ _ rfl opens with ⟨opening, rfl, rfl⟩ | ⟨opening, rfl, rfl⟩ <;>
      simp [inFlow, outside, allowed, openBlock, opening, dropKey?, unkeyed, emit, entered]
  have there : entered.at'.rest = spaces 1 ++ rest := Cursor.skip_rest scan.at' ['-'] _ 1 starts rfl
  obtain ⟨next, settled, at_next, kept⟩ := settle_inside entered 1 rest there begins outside unkeyed head
  have shorter : rest.length < scan.at'.rest.length := by
    rw [starts]
    simp only [List.length_cons]
    omega
  have round := advances_round scan entered next '-' _ starts fetch settled (by rwa [at_next.rest_eq])
  exact ⟨next, round, at_next, kept⟩

def LeadsOn (scan : Scan) (rest : List Char) (column : Nat) (tokens : List Token) (indents : List Nat) : Prop :=
  ∃ next, scan.settle? = some next ∧ next.at'.rest.length ≤ scan.at'.rest.length ∧
    Leads next rest column tokens indents

theorem begins_plain (cs tail : List Char) (plain : Text.Plain cs) (present : cs ≠ []) : Begins (cs ++ tail) := by
  obtain ⟨c, cs, rfl⟩ := List.exists_cons_of_ne_nil present
  obtain ⟨listed, _, blank⟩ := plain_start c cs plain
  rintro d ⟨⟩
  refine ⟨blank, plain.unbroken c (List.mem_cons_self ..), listed '#' (by decide), ?_⟩
  rintro rfl
  exact absurd (plain.printable _ (List.mem_cons_self ..)) (by decide)

theorem fetch_value (scan : Scan) (rest : List Char) (gap : gapFollows rest = true) (beyond : 0 < scan.at'.column) :
    scan.fetch? ':' rest = scan.fetchValue? := by
  simp [fetch?, Cursor.marks_beyond, beyond, gap]

-- The tokens of the key are put in front of the scalar, which was read before it was known to be a key.
theorem fetch_value_key (scan : Scan) (pending : PendingKey) (scalar : Token) (tokens opened : List Token)
    (blocks : List Nat) (held : scan.key = some pending) (read : scan.tokens = scalar :: tokens)
    (position : pending.position = tokens.length) (outside : scan.outerKeys = [])
    (opens : Opens pending.column .blockMappingStart tokens scan.indents opened blocks) :
    scan.fetchValue? = some { scan with
      at' := scan.at'.skip 1
      tokens := .value :: scalar :: .key :: opened
      indents := blocks
      key := none
      keyAllowed := false } := by
  rw [fetchValue?, held]
  rcases opens_block scan _ outside _ _ _ _ _ rfl opens with ⟨opening, rfl, rfl⟩ | ⟨opening, rfl, rfl⟩ <;>
    simp [opening, insert, emit, read, position]

def keyHere (scan : Scan) : PendingKey :=
  ⟨scan.tokens.length, scan.indents.head? == some scan.at'.column, scan.at'.index, scan.at'.line, scan.at'.column⟩

def afterName (scan : Scan) (name : List Char) : Scan := { scan with
  at' := scan.at'.skip name.length
  tokens := .scalar name .plain :: scan.tokens
  key := some scan.keyHere
  keyAllowed := false }

theorem settle_after_name (scan : Scan) (name rest : List Char) (there : (scan.afterName name).at'.rest = ':' :: rest)
    (outside : scan.outerKeys = []) (within : ∀ h ∈ scan.indents.head?, h ≤ scan.at'.column) (short : name.length ≤ 1024) :
    (scan.afterName name).settle? = some (scan.afterName name) := by
  have begins : Begins (':' :: rest) := by
    rintro d ⟨⟩
    decide
  have skipped := skip_gap_spaces (scan.afterName name) 0 (scan.afterName name).at'.rest.length _ there begins
  have inside : ∀ h ∈ (scan.afterName name).indents.head?, h ≤ (scan.afterName name).at'.column := fun h first =>
    Nat.le_trans (within h first) (Nat.le_add_right _ _)
  have settled := settle_skipped (scan.afterName name) (scan.afterName name).at' false (some scan.keyHere) skipped outside
    (refresh_near _ scan.keyHere rfl (Nat.add_le_add_left short _))
  rwa [(closed_outer _ _ _ inside).1, (closed_outer _ (scan.afterName name).tokens _ inside).2] at settled

theorem advances_name (scan : Scan) (name rest : List Char) (starts : scan.at'.rest = name ++ ':' :: rest)
    (unkeyed : scan.key = none) (outside : scan.outerKeys = []) (allowed : scan.keyAllowed = true)
    (within : ∀ h ∈ scan.indents.head?, h ≤ scan.at'.column) (beyond : 0 < scan.at'.column) (plain : Text.Plain name)
    (present : name ≠ []) (short : name.length ≤ 1024) (gap : gapFollows rest = true) :
    Advances scan (scan.afterName name) := by
  have there : (scan.afterName name).at'.rest = ':' :: rest := Cursor.skip_rest scan.at' _ _ _ starts rfl
  have settled := settle_after_name scan name rest there outside within short
  obtain ⟨c, word, rfl⟩ := List.exists_cons_of_ne_nil present
  have least : (scan.indents.head?.map (· + 1)).getD 0 ≤ scan.at'.column + 1 := by
    cases first : scan.indents.head? with
    | none => exact Nat.zero_le _
    | some h => exact Nat.succ_le_succ (within h first)
  have shorter : rest.length + 1 < scan.at'.rest.length := by
    rw [starts]
    simp only [List.length_cons, List.length_append]
    omega
  have read := Text.read_plain_key _ (c :: word) rest (scan.at'.rest.length + 1) scan.at' starts plain gap least (by
    rw [starts]
    simp only [List.length_cons, List.length_append]
    omega)
  have fetched : scan.fetch? c (word ++ ':' :: rest) = some (scan.afterName (c :: word)) := by
    rw [fetch_plain scan c word _ plain outside beyond, fetchPlain?]
    simp [saveKey?, allowed, dropKey?, unkeyed, inFlow, outside, read, emit, afterName, keyHere]
  exact advances_round scan _ _ c _ starts fetched settled (by rwa [there])

theorem read_key (scan : Scan) (name rest : List Char) (column : Nat) (tokens opened : List Token)
    (indents blocks : List Nat) (here : At scan (name ++ ':' :: rest) column tokens indents)
    (allowed : scan.keyAllowed = true) (beyond : 0 < column) (plain : Text.Plain name) (present : name ≠ [])
    (short : name.length ≤ 1024) (gap : gapFollows rest = true)
    (opens : Opens column .blockMappingStart tokens indents opened blocks) :
    ∃ after : Scan, At after rest (column + name.length + 1) (.value :: .scalar name .plain :: .key :: opened) blocks ∧
      ∀ (tail : List Char) (n : Nat) (more : List Token) (outer : List Nat),
        LeadsOn after tail n more outer → Leads scan tail n more outer := by
  obtain ⟨starts, rfl, rfl, rfl, unkeyed, outside⟩ := here
  have first := advances_name scan name rest starts unkeyed outside allowed (opens_within _ _ _ _ _ _ opens) beyond
    plain present short gap
  have there : (scan.afterName name).at'.rest = ':' :: rest := Cursor.skip_rest scan.at' _ _ _ starts rfl
  let after : Scan := { scan with
    at' := (scan.afterName name).at'.skip 1
    tokens := .value :: .scalar name .plain :: .key :: opened
    indents := blocks
    key := none
    keyAllowed := false }
  have after_rest : after.at'.rest = rest := Cursor.skip_rest (scan.afterName name).at' [':'] _ 1 there rfl
  have fetched : (scan.afterName name).fetch? ':' rest = some after := by
    have keyed := fetch_value_key (scan.afterName name) scan.keyHere _ _ opened blocks rfl rfl rfl outside opens
    rw [fetch_value _ rest gap (Nat.lt_of_lt_of_le beyond (Nat.le_add_right _ _)), keyed]
    rfl
  refine ⟨after, ⟨after_rest, rfl, rfl, rfl, rfl, outside⟩, ?_⟩
  rintro tail n more outer ⟨next, settled, shorter, leads⟩
  have second := advances_round _ after next ':' rest there fetched settled (by
    rw [there, List.length_cons, ← after_rest]
    exact Nat.lt_succ_of_le shorter)
  exact leads_after scan next tail n more outer (advances_trans _ _ _ first second) leads

end Scan

end ResourceRoutes.Yaml
