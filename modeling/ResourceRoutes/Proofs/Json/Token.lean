import Mathlib.Tactic.SplitIfs
import ResourceRoutes.Proofs.Decimal
import ResourceRoutes.Proofs.Json.Layout
set_option autoImplicit false

/- The tokens of a written value are the same in every layout. -/
namespace ResourceRoutes.Json

mutual
def Spelled : Json → Prop
  | .null | .bool _ => True
  | .number spelling => ∃ n, spelling = Nat.toDigits 10 n
  | .string spelling => ∃ cs, spelling = Text.escape cs
  | .array items => SpelledItems items
  | .object members => SpelledMembers members

def SpelledItems : List Json → Prop
  | [] => True
  | item :: rest => item.Spelled ∧ SpelledItems rest

def SpelledMembers : List (List Char × Json) → Prop
  | [] => True
  | (key, value) :: rest => (∃ cs, key = Text.escape cs) ∧ value.Spelled ∧ SpelledMembers rest
end

mutual
theorem of_document_spelled (document : Document) : (ofDocument document).Spelled := by
  cases document with
  | text content => exact ⟨_, rfl⟩
  | nat n => exact ⟨n, rfl⟩
  | flag value => trivial
  | list items => exact of_documents_spelled items
  | record fields => exact of_fields_spelled fields

theorem of_documents_spelled (items : List Document) : SpelledItems (ofDocuments items) := by
  cases items with
  | nil => trivial
  | cons item rest => exact ⟨of_document_spelled item, of_documents_spelled rest⟩

theorem of_fields_spelled (fields : List (String × Document)) : SpelledMembers (ofFields fields) := by
  cases fields with
  | nil => trivial
  | cons field rest => exact ⟨⟨_, rfl⟩, of_document_spelled field.2, of_fields_spelled rest⟩
end

mutual
def tokens : Json → List Token
  | .null => [.null]
  | .bool value => [.bool value]
  | .number spelling => [.number spelling]
  | .string spelling => [.string spelling]
  | .array items => .openArray :: itemTokens items ++ [.closeArray]
  | .object members => .openObject :: memberTokens members ++ [.closeObject]

def itemTokens : List Json → List Token
  | [] => []
  | [item] => item.tokens
  | item :: rest => item.tokens ++ .comma :: itemTokens rest

def memberTokens : List (List Char × Json) → List Token
  | [] => []
  | [(key, value)] => .string key :: .colon :: value.tokens
  | (key, value) :: rest => .string key :: .colon :: value.tokens ++ .comma :: memberTokens rest
end

namespace Token

def scanned (found : List Token) (cs : List Char) : Scan := (cs.foldl Scan.step ⟨.between, found⟩).finish

theorem scan_eq (cs : List Char) :
    scan cs = ((scanned [] cs).tokens.reverse, (scanned [] cs).mode == .between) := rfl

theorem scanned_nil (found : List Token) : scanned found [] = ⟨.between, found⟩ := rfl

theorem scanned_blank (found : List Token) (c : Char) (rest : List Char) (blank : isBlank c = true) :
    scanned found (c :: rest) = scanned found rest := by
  have skipped : Scan.step ⟨.between, found⟩ c = ⟨.between, found⟩ := by simp [Scan.step, Scan.start, blank]
  rw [scanned, List.foldl_cons, skipped, scanned]

theorem scanned_blanks (found : List Token) (blanks rest : List Char) (blank : ∀ c ∈ blanks, isBlank c = true) :
    scanned found (blanks ++ rest) = scanned found rest := by
  induction blanks with
  | nil => rfl
  | cons c blanks ih =>
    rw [List.cons_append, scanned_blank found c _ (blank c (List.mem_cons_self ..))]
    exact ih fun d member => blank d (List.mem_cons_of_mem _ member)

theorem scanned_punctuation (found : List Token) (c : Char) (rest : List Char) (token : Token)
    (known : ofPunctuation? c = some token) : scanned found (c :: rest) = scanned (token :: found) rest := by
  have stepped : Scan.step ⟨.between, found⟩ c = ⟨.between, token :: found⟩ := by
    unfold ofPunctuation? at known
    split at known <;> cases known <;> rfl
  rw [scanned, List.foldl_cons, stepped, scanned]

theorem scanning_word (found : List Token) (read word : List Char) (shaped : ∀ c ∈ word, isWordChar c = true) :
    word.foldl Scan.step ⟨.word read, found⟩ = ⟨.word (word.reverse ++ read), found⟩ := by
  induction word generalizing read with
  | nil => rfl
  | cons c word ih =>
    have stepped : Scan.step ⟨.word read, found⟩ c = ⟨.word (c :: read), found⟩ := by
      simp [Scan.step, shaped c (List.mem_cons_self ..)]
    rw [List.foldl_cons, stepped, ih _ fun d member => shaped d (List.mem_cons_of_mem _ member)]
    simp

theorem scanned_word (found : List Token) (first : Char) (word rest : List Char) (token : Token)
    (shaped : ∀ c ∈ first :: word, isWordChar c = true) (known : ofWord? (first :: word) = some token)
    (ended : ∀ c ∈ rest.head?, isWordChar c = false) :
    scanned found (first :: word ++ rest) = scanned (token :: found) rest := by
  have opened : Scan.step ⟨.between, found⟩ first = ⟨.word [first], found⟩ := by
    have shape := shaped first (List.mem_cons_self ..)
    have unblank : isBlank first = false ∧ first ≠ '"' := by
      constructor
      · cases blank : isBlank first with
        | false => rfl
        | true =>
          simp only [isBlank, Bool.or_eq_true, beq_iff_eq] at blank
          rcases blank with ((rfl | rfl) | rfl) | rfl <;> exact absurd shape (by decide)
      · rintro rfl
        exact absurd shape (by decide)
    simp [Scan.step, Scan.start, shape, unblank]
  have word_read := scanning_word found [first] word fun c member => shaped c (List.mem_cons_of_mem _ member)
  have closed : Scan.endWord ⟨.word (word.reverse ++ [first]), found⟩ = ⟨.between, token :: found⟩ := by
    simp [Scan.endWord, Scan.push, known]
  rw [scanned, List.cons_append, List.foldl_cons, opened, List.foldl_append, word_read, scanned]
  cases rest with
  | nil =>
    simp only [List.foldl_nil, Scan.finish, closed]
    rfl
  | cons c rest =>
    have other := ended c rfl
    have stepped : Scan.step ⟨.word (word.reverse ++ [first]), found⟩ c = Scan.step ⟨.between, token :: found⟩ c := by
      simp [Scan.step, other, closed]
    rw [List.foldl_cons, stepped, List.foldl_cons]

theorem digits_are_number (n : Nat) : isNumber (Nat.toDigits 10 n) = true := by
  obtain ⟨first, rest, split, zero⟩ := Decimal.digits_start n
  have digits : ∀ c ∈ first :: rest, c.isDigit = true := fun c member =>
    Decimal.digits_are_digits n c (by rw [split]; exact member)
  have head := digits first (List.mem_cons_self ..)
  have unsigned : first ≠ '-' := by
    rintro rfl
    exact absurd head (by decide)
  have whole : dropInteger? (first :: rest) = some [] := by
    by_cases leading : first = '0'
    · rw [leading, zero leading]
      rfl
    · have gone : (first :: rest).dropWhile Char.isDigit = [] := by
        have passed : (first :: rest ++ []).dropWhile Char.isDigit = [] := List.dropWhile_append_of_pos digits
        rwa [List.append_nil] at passed
      rw [dropInteger?.eq_def]
      split
      · rename_i same
        exact absurd (List.cons.inj same).1 leading
      · simp [dropDigits?, head, gone]
  rw [split, isNumber.eq_def]
  split
  · rename_i same
    exact absurd (List.cons.inj same).1 unsigned
  · simp only [whole]
    rfl

theorem scanned_digits (found : List Token) (n : Nat) (rest : List Char)
    (ended : ∀ c ∈ rest.head?, isWordChar c = false) :
    scanned found (Nat.toDigits 10 n ++ rest) = scanned (.number (Nat.toDigits 10 n) :: found) rest := by
  obtain ⟨first, others, split, -⟩ := Decimal.digits_start n
  have digits : ∀ c ∈ first :: others, c.isDigit = true := fun c member =>
    Decimal.digits_are_digits n c (by rw [split]; exact member)
  have head := digits first (List.mem_cons_self ..)
  have number : ofWord? (first :: others) = some (.number (first :: others)) := by
    have other_word (word : List Char) (c : Char) (letters : word.head? = some c) (letter : c.isDigit = false) :
        first :: others ≠ word := by
      rintro rfl
      cases letters
      exact absurd head (by simp [letter])
    have known := digits_are_number n
    rw [split] at known
    rw [ofWord?, if_neg (other_word _ 'n' rfl rfl), if_neg (other_word _ 't' rfl rfl), if_neg (other_word _ 'f' rfl rfl),
      if_pos known]
  rw [split]
  refine scanned_word found first others rest _ (fun c member => ?_) number ended
  simp [isWordChar, Char.isAlphanum, digits c member]

theorem scanning_hex (found : List Token) (read : List Char) (n missing : Nat) (bound : n < 16) :
    Scan.step ⟨.code read missing, found⟩ (Text.hexDigit n) =
      ⟨if missing ≤ 1 then .string (Text.hexDigit n :: read) else .code (Text.hexDigit n :: read) (missing - 1),
        found⟩ := by
  have shaped : isHexDigit (Text.hexDigit n) = true := by
    revert n
    decide
  simp [Scan.step, shaped]

theorem scanning_escaped_char (found : List Token) (read : List Char) (c : Char) :
    (Text.escapeChar c).foldl Scan.step ⟨.string read, found⟩ =
      ⟨.string ((Text.escapeChar c).reverse ++ read), found⟩ := by
  unfold Text.escapeChar
  split_ifs with quote backslash feed ret tab back form control
  iterate 7 rfl
  · have opened : ['\\', 'u', '0', '0'].foldl Scan.step ⟨.string read, found⟩ =
        ⟨.code ('0' :: '0' :: 'u' :: '\\' :: read) 2, found⟩ := rfl
    have high := scanning_hex found ('0' :: '0' :: 'u' :: '\\' :: read) (c.toNat / 16) 2 (by omega)
    have low := scanning_hex found (Text.hexDigit (c.toNat / 16) :: '0' :: '0' :: 'u' :: '\\' :: read)
      (c.toNat % 16) 1 (by omega)
    simp only [List.foldl_cons, List.foldl_nil] at opened ⊢
    rw [opened, high]
    exact low
  · simp [Scan.step, quote, backslash, control]

theorem scanning_escaped (found : List Token) (read cs : List Char) :
    (Text.escape cs).foldl Scan.step ⟨.string read, found⟩ = ⟨.string ((Text.escape cs).reverse ++ read), found⟩ := by
  induction cs generalizing read with
  | nil => rfl
  | cons c cs ih =>
    rw [Text.escape, List.flatMap_cons, List.foldl_append, scanning_escaped_char]
    rw [Text.escape] at ih
    rw [ih]
    simp

theorem scanned_string (found : List Token) (cs rest : List Char) :
    scanned found (inQuotes (Text.escape cs) ++ rest) = scanned (.string (Text.escape cs) :: found) rest := by
  have opened : Scan.step ⟨.between, found⟩ '"' = ⟨.string [], found⟩ := rfl
  have closed (read : List Char) :
      Scan.step ⟨.string read, found⟩ '"' = ⟨.between, .string read.reverse :: found⟩ := rfl
  simp only [scanned, inQuotes, List.cons_append, List.append_assoc, List.nil_append, List.foldl_cons, opened,
    List.foldl_append, scanning_escaped, closed]
  simp

end Token

def Bounded (rest : List Char) : Prop := ∀ c ∈ rest.head?, Token.isWordChar c = false

theorem bounded_cons (c : Char) (rest : List Char) (other : Token.isWordChar c = false) : Bounded (c :: rest) := by
  intro d first
  cases first
  exact other

theorem blank_other (c : Char) (blank : Token.isBlank c = true) : Token.isWordChar c = false := by
  simp only [Token.isBlank, Bool.or_eq_true, beq_iff_eq] at blank
  rcases blank with ((rfl | rfl) | rfl) | rfl <;> rfl

theorem bounded_blanks (blanks rest : List Char) (blank : ∀ c ∈ blanks, Token.isBlank c = true)
    (bounded : Bounded rest) : Bounded (blanks ++ rest) := by
  cases blanks with
  | nil => exact bounded
  | cons c blanks => exact bounded_cons c _ (blank_other c (blank c (List.mem_cons_self ..)))

open Token in
mutual
theorem scanned_laid (layout : Layout) (found : List Token) (depth : Nat) (value : Json) (rest : List Char)
    (spelled : value.Spelled) (bounded : Bounded rest) :
    scanned found (laid layout depth value ++ rest) = scanned (value.tokens.reverse ++ found) rest := by
  cases value with
  | null => exact scanned_word found 'n' _ rest .null (List.all_eq_true.mp rfl) rfl bounded
  | bool value =>
    cases value with
    | false => exact scanned_word found 'f' _ rest (.bool false) (List.all_eq_true.mp rfl) rfl bounded
    | true => exact scanned_word found 't' _ rest (.bool true) (List.all_eq_true.mp rfl) rfl bounded
  | number spelling =>
    obtain ⟨n, rfl⟩ := spelled
    exact scanned_digits found n rest bounded
  | string spelling =>
    obtain ⟨cs, rfl⟩ := spelled
    exact scanned_string found cs rest
  | array items =>
    cases items with
    | nil => exact (scanned_punctuation _ _ _ .openArray rfl).trans (scanned_punctuation _ _ _ .closeArray rfl)
    | cons item others =>
      have inner := scanned_laid_items layout (.openArray :: found) (depth + 1) (item :: others)
        (layout.line depth ++ ']' :: rest) spelled
        (bounded_blanks _ _ (layout.line_blank depth) (bounded_cons _ _ rfl))
      simp only [laid, List.append_assoc, List.cons_append, List.nil_append]
      rw [scanned_punctuation _ _ _ .openArray rfl, inner, scanned_blanks _ _ _ (layout.line_blank depth),
        scanned_punctuation _ _ _ .closeArray rfl]
      simp [tokens]
  | object members =>
    cases members with
    | nil => exact (scanned_punctuation _ _ _ .openObject rfl).trans (scanned_punctuation _ _ _ .closeObject rfl)
    | cons member others =>
      have inner := scanned_laid_members layout (.openObject :: found) (depth + 1) (member :: others)
        (layout.line depth ++ Char.ofNat 0x7D :: rest) spelled
        (bounded_blanks _ _ (layout.line_blank depth) (bounded_cons _ _ rfl))
      simp only [laid, List.append_assoc, List.cons_append, List.nil_append]
      rw [scanned_punctuation _ _ _ .openObject rfl, inner, scanned_blanks _ _ _ (layout.line_blank depth),
        scanned_punctuation _ _ _ .closeObject rfl]
      simp [tokens]

theorem scanned_laid_items (layout : Layout) (found : List Token) (depth : Nat) (items : List Json)
    (rest : List Char) (spelled : SpelledItems items) (bounded : Bounded rest) :
    scanned found (laidItems layout depth items ++ rest) = scanned ((itemTokens items).reverse ++ found) rest := by
  match items with
  | [] => rfl
  | [item] =>
    simp only [laidItems, List.append_assoc]
    rw [scanned_blanks _ _ _ (layout.line_blank depth), scanned_laid layout found depth item rest spelled.1 bounded,
      itemTokens]
  | item :: next :: others =>
    simp only [laidItems, List.append_assoc, List.cons_append]
    rw [scanned_blanks _ _ _ (layout.line_blank depth),
      scanned_laid layout found depth item _ spelled.1 (bounded_cons ',' _ rfl),
      scanned_punctuation _ _ _ .comma rfl,
      scanned_laid_items layout _ depth (next :: others) rest spelled.2 bounded]
    simp [itemTokens]

theorem scanned_laid_members (layout : Layout) (found : List Token) (depth : Nat) (members : List (List Char × Json))
    (rest : List Char) (spelled : SpelledMembers members) (bounded : Bounded rest) :
    scanned found (laidMembers layout depth members ++ rest) =
      scanned ((memberTokens members).reverse ++ found) rest := by
  match members with
  | [] => rfl
  | [(key, value)] =>
    obtain ⟨⟨cs, rfl⟩, valued, -⟩ := spelled
    simp only [laidMembers, List.append_assoc, List.cons_append]
    rw [scanned_blanks _ _ _ (layout.line_blank depth), scanned_string, scanned_punctuation _ _ _ .colon rfl,
      scanned_blanks _ _ _ layout.gap_blank, scanned_laid layout _ depth value rest valued bounded]
    simp [memberTokens]
  | (key, value) :: next :: others =>
    obtain ⟨⟨cs, rfl⟩, valued, following⟩ := spelled
    simp only [laidMembers, List.append_assoc, List.cons_append]
    rw [scanned_blanks _ _ _ (layout.line_blank depth), scanned_string, scanned_punctuation _ _ _ .colon rfl,
      scanned_blanks _ _ _ layout.gap_blank,
      scanned_laid layout _ depth value _ valued (bounded_cons ',' _ rfl), scanned_punctuation _ _ _ .comma rfl,
      scanned_laid_members layout _ depth (next :: others) rest following bounded]
    simp [memberTokens]
end

end ResourceRoutes.Json
