import ResourceRoutes.Proofs.Yaml.Document
set_option autoImplicit false

namespace ResourceRoutes.Yaml

mutual
def nodeOf : Document → Node
  | .text content => .scalar {} content.toList (Text.style content.toList)
  | .nat n => .scalar {} (Nat.toDigits 10 n) .plain
  | .flag value => .scalar {} (flagText value) .plain
  | .list items => .sequence {} (nodesOf items)
  | .record fields => .mapping {} (entriesOf fields)

def nodesOf : List Document → List Node
  | [] => []
  | item :: rest => nodeOf item :: nodesOf rest

def entriesOf : List (String × Document) → List (Node × Node)
  | [] => []
  | (name, value) :: rest => (.scalar {} name.toList .plain, nodeOf value) :: entriesOf rest
end

theorem node_tokens_start (place : Place) (document : Document) :
    ∃ token more, nodeTokens place document = token :: more ∧ token ∉ [Token.key, .value, .blockEnd] ∧
      (token = .blockEntry → place = .blockOfMapping) := by
  match document with
  | .text content => exact ⟨_, _, rfl, by simp, by simp⟩
  | .nat n => exact ⟨_, _, rfl, by simp, by simp⟩
  | .flag value => exact ⟨_, _, rfl, by simp, by simp⟩
  | .list [] => exact ⟨_, _, rfl, by simp, by simp⟩
  | .record [] => exact ⟨_, _, rfl, by simp, by simp⟩
  | .record (field :: fields) => exact ⟨_, _, rfl, by simp, by simp⟩
  | .list (item :: items) =>
    by_cases inside : place = .blockOfMapping
    · exact ⟨_, _, by rw [nodeTokens, if_pos inside, itemTokens]; rfl, by simp, fun _ => inside⟩
    · exact ⟨_, _, by rw [nodeTokens, if_neg inside]; rfl, by simp, by simp⟩

variable (handles : List (List Char × List Char)) (anchors : List (List Char × Nat))

theorem read_present (place : Place) (document : Document) (rest followers : List Token) (fuel : Nat)
    (apart : ∀ token ∈ followers, token ∈ [Token.key, .value, .blockEnd] ∨ (token = .blockEntry ∧ place = .block)) :
    nodeBefore? (fuel + 1) place followers ⟨nodeTokens place document ++ rest, handles, anchors⟩ =
      node? fuel place ⟨nodeTokens place document ++ rest, handles, anchors⟩ := by
  obtain ⟨token, more, starts, other, unindented⟩ := node_tokens_start place document
  have unlisted : token ∉ followers := by
    intro member
    rcases apart token member with closes | ⟨entry, block⟩
    · exact other closes
    · have inside := unindented entry
      rw [block] at inside
      cases inside
  have goes : TokenStream.nextIn ⟨nodeTokens place document ++ rest, handles, anchors⟩ followers = false := by
    simp [TokenStream.nextIn, TokenStream.next?, starts, unlisted]
  rw [nodeBefore?, goes]
  rfl

theorem plain_properties (token : Token) (rest : List Token) (unanchored : ∀ name, token ≠ .anchor name)
    (untagged : ∀ handle ending, token ≠ .tag handle ending) :
    TokenStream.properties? ⟨token :: rest, handles, anchors⟩ = some ({}, ⟨token :: rest, handles, anchors⟩) := by
  cases token with
  | anchor name => exact absurd rfl (unanchored name)
  | tag handle ending => exact absurd rfl (untagged handle ending)
  | _ => rfl

theorem read_key_node (text : List Char) (rest : List Token) (fuel : Nat) :
    nodeBefore? (fuel + 2) .blockOfMapping [.key, .value, .blockEnd] ⟨.scalar text .plain :: rest, handles, anchors⟩ =
      some (.scalar {} text .plain, ⟨rest, handles, anchors⟩) := by
  rw [nodeBefore?, node?]
  rfl

theorem read_value_mark (rest : List Token) (fuel : Nat) :
    blockValue? (fuel + 1) ⟨.value :: rest, handles, anchors⟩ =
      nodeBefore? fuel .blockOfMapping [.key, .value, .blockEnd] ⟨rest, handles, anchors⟩ := by
  rw [blockValue?]
  rfl

mutual
theorem read_node (document : Document) (place : Place) (rest : List Token) (fuel : Nat) (inBlock : place ≠ .flow)
    (follows : place = .blockOfMapping → rest.head? ≠ some .blockEntry)
    (enough : 3 * (nodeTokens place document).length + 2 ≤ fuel) :
    node? fuel place ⟨nodeTokens place document ++ rest, handles, anchors⟩ =
      some (nodeOf document, ⟨rest, handles, anchors⟩) := by
  obtain ⟨fuel, rfl⟩ : ∃ more, fuel = more + 1 := ⟨fuel - 1, by omega⟩
  match document with
  | .text content | .nat n | .flag value =>
    rw [nodeTokens, node?]
    rfl
  | .list [] | .record [] =>
    simp only [nodeTokens, List.length_cons] at enough
    obtain ⟨fuel, rfl⟩ : ∃ more, fuel = more + 1 := ⟨fuel - 1, by omega⟩
    rw [nodeTokens, node?]
    rfl
  | .list (item :: items) =>
    by_cases inside : place = .blockOfMapping
    · subst inside
      rw [nodeTokens, if_pos rfl] at enough ⊢
      have read := read_unindented_items (item :: items) rest fuel (follows rfl) (by omega)
      obtain ⟨more, starts⟩ : ∃ more, itemTokens (item :: items) = .blockEntry :: more := ⟨_, itemTokens.eq_2 item items⟩
      rw [starts, List.cons_append] at read ⊢
      rw [node?]
      simp [TokenStream.next?, plain_properties, read, nodeOf]
    · have block : place = .block := by cases place <;> simp_all
      subst block
      rw [nodeTokens, if_neg (by decide)] at enough ⊢
      have read := read_block_items (item :: items) rest fuel (by simp at enough; omega)
      simp only [List.cons_append, List.append_assoc, List.nil_append]
      rw [node?]
      simp [TokenStream.next?, TokenStream.drop, plain_properties, read, nodeOf]
  | .record (field :: fields) =>
    rw [nodeTokens] at enough ⊢
    have read := read_block_entries (field :: fields) rest fuel (by simp at enough; omega)
    simp only [List.cons_append, List.append_assoc, List.nil_append]
    rw [node?]
    simp [TokenStream.next?, TokenStream.drop, plain_properties, read, nodeOf, inBlock]

theorem read_block_items (items : List Document) (rest : List Token) (fuel : Nat)
    (enough : 3 * (itemTokens items).length + 1 ≤ fuel) :
    blockItems? fuel ⟨itemTokens items ++ .blockEnd :: rest, handles, anchors⟩ =
      some (nodesOf items, ⟨rest, handles, anchors⟩) := by
  obtain ⟨fuel, rfl⟩ : ∃ more, fuel = more + 1 := ⟨fuel - 1, by omega⟩
  match items with
  | [] => rfl
  | item :: items =>
    simp only [itemTokens, List.length_append, List.length_cons] at enough
    obtain ⟨fuel, rfl⟩ : ∃ more, fuel = more + 1 := ⟨fuel - 1, by omega⟩
    have present := read_present handles anchors .block item (itemTokens items ++ .blockEnd :: rest)
      [.blockEntry, .blockEnd] fuel (by simp)
    have first := read_node item .block (itemTokens items ++ .blockEnd :: rest) fuel (by decide) (by simp) (by omega)
    have others := read_block_items items rest (fuel + 1) (by omega)
    rw [first] at present
    simp only [itemTokens, List.append_assoc, List.cons_append]
    rw [blockItems?]
    simp [TokenStream.next?, TokenStream.drop, present, others, nodesOf]

theorem read_unindented_items (items : List Document) (rest : List Token) (fuel : Nat)
    (follows : rest.head? ≠ some .blockEntry) (enough : 3 * (itemTokens items).length + 1 ≤ fuel) :
    unindentedItems? fuel ⟨itemTokens items ++ rest, handles, anchors⟩ =
      some (nodesOf items, ⟨rest, handles, anchors⟩) := by
  obtain ⟨fuel, rfl⟩ : ∃ more, fuel = more + 1 := ⟨fuel - 1, by omega⟩
  match items with
  | [] =>
    rw [itemTokens, List.nil_append, unindentedItems?]
    split
    · rename_i entry
      exact absurd entry follows
    · rfl
  | item :: items =>
    simp only [itemTokens, List.length_append, List.length_cons] at enough
    obtain ⟨fuel, rfl⟩ : ∃ more, fuel = more + 1 := ⟨fuel - 1, by omega⟩
    have present := read_present handles anchors .block item (itemTokens items ++ rest)
      [.blockEntry, .key, .value, .blockEnd] fuel (by simp)
    have first := read_node item .block (itemTokens items ++ rest) fuel (by decide) (by simp) (by omega)
    have others := read_unindented_items items rest (fuel + 1) follows (by omega)
    rw [first] at present
    simp only [itemTokens, List.append_assoc, List.cons_append]
    rw [unindentedItems?]
    simp [TokenStream.next?, TokenStream.drop, present, others, nodesOf]

theorem read_block_entries (fields : List (String × Document)) (rest : List Token) (fuel : Nat)
    (enough : 3 * (fieldTokens fields).length + 1 ≤ fuel) :
    blockEntries? fuel ⟨fieldTokens fields ++ .blockEnd :: rest, handles, anchors⟩ =
      some (entriesOf fields, ⟨rest, handles, anchors⟩) := by
  obtain ⟨fuel, rfl⟩ : ∃ more, fuel = more + 1 := ⟨fuel - 1, by omega⟩
  match fields with
  | [] => rfl
  | (name, value) :: fields =>
    simp only [fieldTokens, List.length_append, List.length_cons] at enough
    obtain ⟨fuel, rfl⟩ : ∃ more, fuel = more + 3 := ⟨fuel - 3, by omega⟩
    have follows : (fieldTokens fields ++ .blockEnd :: rest).head? ≠ some .blockEntry := by
      cases fields <;> simp [fieldTokens]
    have present := read_present handles anchors .blockOfMapping value (fieldTokens fields ++ .blockEnd :: rest)
      [.key, .value, .blockEnd] (fuel + 1) (by simp)
    have first := read_node value .blockOfMapping (fieldTokens fields ++ .blockEnd :: rest) (fuel + 1) (by decide)
      (fun _ => follows) (by omega)
    have others := read_block_entries fields rest (fuel + 3) (by omega)
    rw [first] at present
    simp only [fieldTokens, List.append_assoc, List.cons_append]
    rw [blockEntries?]
    simp [TokenStream.next?, TokenStream.drop, read_key_node, read_value_mark, present, others, entriesOf]
end

theorem tree_of_tokens (items : List Document) :
    Tree.ofTokens? (nodeTokens .block (.list items)) = some (Tree.ofNode (nodeOf (.list items))) := by
  have read := read_node defaultHandles [] (.list items) .block [] (4 * (nodeTokens .block (.list items)).length + 4)
    (by decide) (by simp) (by omega)
  obtain ⟨token, more, starts, opening⟩ : ∃ token more, nodeTokens .block (.list items) = token :: more ∧
      (token = .flowSequenceStart ∨ token = .blockSequenceStart) := by
    match items with
    | [] => exact ⟨_, _, rfl, .inl rfl⟩
    | item :: rest => exact ⟨_, _, by rw [nodeTokens, if_neg (by decide)]; rfl, .inr rfl⟩
  rw [List.append_nil, starts] at read
  rw [starts]
  have undirected : directives? false [] (token :: more) = some ([], token :: more) := by
    rcases opening with rfl | rfl <;> rfl
  have unmarked : token ≠ .documentStart ∧ (token == .documentStart) = false := by
    rcases opening with rfl | rfl <;> decide
  have content : content? false ⟨token :: more, defaultHandles, []⟩ =
      some (nodeOf (.list items), ⟨[], defaultHandles, []⟩) := by
    rcases opening with rfl | rfl <;> exact read
  simp [Tree.ofTokens?, undirected, unmarked, content, endsDocument]

end ResourceRoutes.Yaml
