import ResourceRoutes.Proofs.Decimal
import ResourceRoutes.Proofs.Yaml.Text.Style
import ResourceRoutes.Yaml.Node.Grammar
import ResourceRoutes.Yaml.Printer
set_option autoImplicit false

/- Breaks behind a document become part of a last text that keeps all breaks; `padded` is what it turns into. -/
namespace ResourceRoutes.Yaml

open Yaml.Text (spaces isPrintable withBreaks)

mutual
def padded (extra : List Char) : Document → Document
  | .text content => .text (String.ofList (withBreaks content.toList extra))
  | .list items => .list (paddedItems extra items)
  | .record fields => .record (paddedFields extra fields)
  | document => document

def paddedItems (extra : List Char) : List Document → List Document
  | [] => []
  | [item] => [padded extra item]
  | item :: next :: rest => item :: paddedItems extra (next :: rest)

def paddedFields (extra : List Char) : List (String × Document) → List (String × Document)
  | [] => []
  | [(name, value)] => [(name, padded extra value)]
  | field :: next :: rest => field :: paddedFields extra (next :: rest)
end

mutual
theorem padded_nothing (document : Document) : padded [] document = document := by
  cases document with
  | text content => simp [padded, withBreaks]
  | nat n => rfl
  | flag value => rfl
  | list items => rw [padded, padded_nothing_items items]
  | record fields => rw [padded, padded_nothing_fields fields]

theorem padded_nothing_items (items : List Document) : paddedItems [] items = items := by
  match items with
  | [] => rfl
  | [item] => rw [paddedItems, padded_nothing item]
  | item :: next :: rest => rw [paddedItems, padded_nothing_items (next :: rest)]

theorem padded_nothing_fields (fields : List (String × Document)) : paddedFields [] fields = fields := by
  match fields with
  | [] => rfl
  | [(name, value)] => rw [paddedFields, padded_nothing value]
  | field :: next :: rest => rw [paddedFields, padded_nothing_fields (next :: rest)]
end

theorem padded_items_present (extra : List Char) (item : Document) (rest : List Document) :
    paddedItems extra (item :: rest) ≠ [] := by
  cases rest <;> simp [paddedItems]

theorem padded_fields_present (extra : List Char) (field : String × Document) (rest : List (String × Document)) :
    paddedFields extra (field :: rest) ≠ [] := by
  cases rest <;> simp [paddedFields]

mutual
-- A list that is the value of a key is not indented further than the key, and has no block of its own.
def nodeTokens (place : Place) : Document → List Token
  | .text content => [.scalar content.toList (Text.style content.toList)]
  | .nat n => [.scalar (Nat.toDigits 10 n) .plain]
  | .flag value => [.scalar (flagText value) .plain]
  | .list [] => [.flowSequenceStart, .flowSequenceEnd]
  | .list (item :: rest) =>
    if place = .blockOfMapping then itemTokens (item :: rest)
    else .blockSequenceStart :: itemTokens (item :: rest) ++ [.blockEnd]
  | .record [] => [.flowMappingStart, .flowMappingEnd]
  | .record (field :: rest) => .blockMappingStart :: fieldTokens (field :: rest) ++ [.blockEnd]

def itemTokens : List Document → List Token
  | [] => []
  | item :: rest => .blockEntry :: nodeTokens .block item ++ itemTokens rest

def fieldTokens : List (String × Document) → List Token
  | [] => []
  | (name, value) :: rest =>
    .key :: .scalar name.toList .plain :: .value :: nodeTokens .blockOfMapping value ++ fieldTokens rest
end

theorem list_tokens (place : Place) (items : List Document) (present : items ≠ []) :
    nodeTokens place (.list items) =
      if place = .blockOfMapping then itemTokens items else .blockSequenceStart :: itemTokens items ++ [.blockEnd] := by
  obtain ⟨item, rest, rfl⟩ := List.exists_cons_of_ne_nil present
  rw [nodeTokens]

theorem record_tokens (place : Place) (fields : List (String × Document)) (present : fields ≠ []) :
    nodeTokens place (.record fields) = .blockMappingStart :: fieldTokens fields ++ [.blockEnd] := by
  obtain ⟨field, rest, rfl⟩ := List.exists_cons_of_ne_nil present
  rw [nodeTokens]

mutual
def Named : Document → Prop
  | .list items => NamedItems items
  | .record fields => NamedFields fields
  | _ => True

def NamedItems : List Document → Prop
  | [] => True
  | item :: rest => Named item ∧ NamedItems rest

def NamedFields : List (String × Document) → Prop
  | [] => True
  | (name, value) :: rest =>
    (Text.style name.toList = .plain ∧ name.toList.length ≤ 1024) ∧ Named value ∧ NamedFields rest
end

theorem write_name (name : List Char) (style : Text.style name = .plain) :
    Text.writeKey name = name ∧ Text.Plain name ∧ name ≠ [] := by
  cases Text.styled name with
  | plain _ fits present =>
    have plain := Text.plain_of_fits name fits
    have unbroken : name.any isBreak = false := by
      rw [List.any_eq_false]
      intro c member
      simp [plain.unbroken c member]
    exact ⟨by simp [Text.writeKey, unbroken, style], plain, present⟩
  | single other => rw [style] at other; cases other
  | double other => rw [style] at other; cases other
  | literal other => rw [style] at other; cases other

theorem list_lines (column : Nat) (item : Document) (rest : List Document) :
    spaces column ++ writeAt column (.list (item :: rest)) = writeItems column (item :: rest) := by
  simp [writeAt, writeItems]

theorem record_lines (column : Nat) (field : String × Document) (rest : List (String × Document)) :
    spaces column ++ writeAt column (.record (field :: rest)) = writeFields column (field :: rest) := by
  simp [writeAt, writeFields]

theorem digits_printable (n : Nat) : ∀ c ∈ Nat.toDigits 10 n, isPrintable c = true :=
  (Text.plain_digits _ (Decimal.digits_are_digits n)).printable

mutual
theorem write_at_printable (document : Document) (column : Nat) (named : Named document) :
    ∀ c ∈ writeAt column document, isPrintable c = true := by
  match document with
  | .text content => exact Text.write_printable column content.toList
  | .nat n => exact List.forall_mem_append.mpr ⟨digits_printable n, Text.feed_printable⟩
  | .flag value => exact List.forall_mem_append.mpr ⟨(Text.plain_flag value).printable, Text.feed_printable⟩
  | .list [] | .record [] =>
    rw [writeAt]
    exact List.all_eq_true.mp rfl
  | .list (item :: rest) =>
    have lines := write_items_printable (item :: rest) column named
    rw [← list_lines] at lines
    exact (List.forall_mem_append.mp lines).2
  | .record (field :: rest) =>
    have lines := write_fields_printable (field :: rest) column named
    rw [← record_lines] at lines
    exact (List.forall_mem_append.mp lines).2

theorem write_items_printable (items : List Document) (column : Nat) (named : NamedItems items) :
    ∀ c ∈ writeItems column items, isPrintable c = true := by
  match items with
  | [] => simp [writeItems]
  | item :: rest =>
    have first := write_at_printable item (column + 2) named.1
    have others := write_items_printable rest column named.2
    have entry : ∀ c ∈ '-' :: ' ' :: writeAt (column + 2) item, isPrintable c = true :=
      List.forall_mem_cons.mpr ⟨rfl, List.forall_mem_cons.mpr ⟨rfl, first⟩⟩
    have line := List.forall_mem_append.mpr ⟨Text.spaces_printable column, entry⟩
    exact List.forall_mem_append.mpr ⟨line, others⟩

theorem write_fields_printable (fields : List (String × Document)) (column : Nat) (named : NamedFields fields) :
    ∀ c ∈ writeFields column fields, isPrintable c = true := by
  match fields with
  | [] => simp [writeFields]
  | (name, value) :: rest =>
    obtain ⟨key, plain, _⟩ := write_name name.toList named.1.1
    have first := write_value_printable value column named.2.1
    have others := write_fields_printable rest column named.2.2
    have colon : ∀ c ∈ ':' :: writeValue column value, isPrintable c = true := List.forall_mem_cons.mpr ⟨rfl, first⟩
    have start := List.forall_mem_append.mpr ⟨Text.spaces_printable column, plain.printable⟩
    have line := List.forall_mem_append.mpr ⟨start, colon⟩
    rw [writeFields, key]
    exact List.forall_mem_append.mpr ⟨line, others⟩

theorem write_value_printable (document : Document) (column : Nat) (named : Named document) :
    ∀ c ∈ writeValue column document, isPrintable c = true := by
  match document with
  | .text content => exact List.forall_mem_cons.mpr ⟨rfl, Text.write_printable (column + 2) content.toList⟩
  | .nat n => exact List.forall_mem_append.mpr ⟨List.forall_mem_cons.mpr ⟨rfl, digits_printable n⟩, Text.feed_printable⟩
  | .flag value =>
    have flag := (Text.plain_flag value).printable
    exact List.forall_mem_append.mpr ⟨List.forall_mem_cons.mpr ⟨rfl, flag⟩, Text.feed_printable⟩
  | .list [] | .record [] =>
    rw [writeValue]
    exact List.all_eq_true.mp rfl
  | .list (item :: rest) => exact List.forall_mem_cons.mpr ⟨rfl, write_items_printable (item :: rest) column named⟩
  | .record (field :: rest) =>
    exact List.forall_mem_cons.mpr ⟨rfl, write_fields_printable (field :: rest) (column + 2) named⟩
end

theorem printable_stream (c : Char) (printable : isPrintable c = true) : isStreamChar c = true := by
  simp only [isPrintable, Bool.or_eq_true, Bool.and_eq_true, decide_eq_true_eq, beq_iff_eq, bne_iff_ne] at printable
  simp only [isStreamChar, Bool.or_eq_true, Bool.and_eq_true, decide_eq_true_eq, beq_iff_eq]
  omega

end ResourceRoutes.Yaml
