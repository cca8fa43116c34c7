import ResourceRoutes.Proofs.Source.Token.Strings
set_option autoImplicit false

namespace ResourceRoutes.Source

def beginsToken (c : Char) : Bool :=
  !isSpace c && (opening? c).isNone && (closing? c).isNone && !"/*:\ufeff".toList.contains c

namespace Lexeme

theorem digit_cases (c : Char) (digit : c.isDigit = true) : c ∈ "0123456789".toList := by
  have each : ∀ n < 58, 48 ≤ n → Char.ofNat n ∈ "0123456789".toList := by decide
  obtain ⟨above, below⟩ := Char.isDigit_iff_toNat.mp digit
  have listed := each c.toNat (Nat.lt_succ_of_le below) above
  rw [Char.ofNat_toNat] at listed
  exact listed

def quoteStarts : List Char := ['b', 'c', 'r', '"', '\'']

theorem StringText.starts {text : List Char} (held : StringText text) : ∃ c ∈ text.head?, c ∈ quoteStarts := by
  cases held with
  | quoted lead content body led held =>
    simp only [List.mem_cons, List.not_mem_nil, or_false, Prod.mk.injEq] at led
    obtain ⟨rfl, -⟩ | ⟨rfl, -⟩ | ⟨rfl, -⟩ := led <;> exact ⟨_, rfl, by decide⟩
  | raw lead content marks body led hashes few held =>
    simp only [List.mem_cons, List.not_mem_nil, or_false, Prod.mk.injEq] at led
    obtain ⟨rfl, -⟩ | ⟨rfl, -⟩ | ⟨rfl, -⟩ := led <;> exact ⟨_, rfl, by decide⟩

theorem CharacterText.starts {text : List Char} (held : CharacterText text) : ∃ c ∈ text.head?, c ∈ quoteStarts := by
  cases held with
  | ticked lead content body led held =>
    simp only [List.mem_cons, List.not_mem_nil, or_false, Prod.mk.injEq] at led
    obtain ⟨rfl, -⟩ | ⟨rfl, -⟩ := led <;> exact ⟨_, rfl, by decide⟩

theorem starts_of_front (text rest : List Char) (starts : ∃ c ∈ text.head?, c ∈ quoteStarts) :
    ∃ c ∈ (text ++ rest).head?, c ∈ quoteStarts := by
  cases text with
  | nil =>
    obtain ⟨c, first, -⟩ := starts
    cases first
  | cons d text => exact starts

theorem no_quotes (cs : List Char) (other : ∀ c ∈ cs.head?, c ∉ quoteStarts) :
    string? cs = none ∧ character? cs = none := by
  constructor
  · cases read : string? cs with
    | none => rfl
    | some n =>
      obtain ⟨text, rest, rfl, -, held⟩ := string_front cs n read
      obtain ⟨c, first, listed⟩ := starts_of_front text rest held.starts
      exact absurd listed (other c first)
  · cases read : character? cs with
    | none => rfl
    | some n =>
      obtain ⟨text, rest, rfl, -, held⟩ := character_front cs n read
      obtain ⟨c, first, listed⟩ := starts_of_front text rest held.starts
      exact absurd listed (other c first)

structure SuffixText (suffix : List Char) : Prop where
  word : ∀ c ∈ suffix, Text.isIdentStart c ∨ Text.isIdentContinue c
  takes : ∀ after, Stops after → (ident? (suffix ++ after)).getD 0 = suffix.length

theorem no_suffix : SuffixText [] where
  word := List.forall_mem_nil _
  takes after stops := by
    rw [List.nil_append, ident_after_stop after stops]
    rfl

theorem suffix_solid (suffix : List Char) (word : ∀ c ∈ suffix, Text.isIdentStart c ∨ Text.isIdentContinue c) :
    ' ' ∉ suffix :=
  fun inside => word_no_edge ' ' (word ' ' inside) (by decide)

theorem with_suffix_front (text rest : List Char) :
    ∃ suffix others, rest = suffix ++ others ∧ withSuffix (text ++ rest) text.length = (text ++ suffix).length ∧
      SuffixText suffix := by
  obtain ⟨suffix, others, rfl, long, word, takes⟩ := suffix_front rest
  refine ⟨suffix, others, rfl, ?_, word, takes⟩
  rw [withSuffix, List.drop_left, ← long, List.length_append]

theorem shut_suffixed (text suffix : List Char) (shut : Shut text) (held : SuffixText suffix) : Shut (text ++ suffix) := by
  cases suffix.eq_nil_or_concat with
  | inl none_left =>
    rw [none_left, List.append_nil]
    exact shut
  | inr found =>
    obtain ⟨front, c, rfl⟩ := found
    have word := held.word
    rw [List.concat_eq_append] at word ⊢
    exact ⟨text ++ front, c, (List.append_assoc ..).symm, word_no_edge c (word c (by simp))⟩

structure LiteralText (text : List Char) : Prop where
  shut : Shut text
  begins : ∃ c ∈ text.head?, beginsToken c = true
  takes : ∀ after, Stops after → literal? (text ++ after) = some text.length

theorem quotes_begin (text suffix : List Char) (starts : ∃ c ∈ text.head?, c ∈ quoteStarts) :
    ∃ c ∈ (text ++ suffix).head?, beginsToken c = true := by
  obtain ⟨c, first, listed⟩ := starts_of_front text suffix starts
  have each : ∀ c ∈ quoteStarts, beginsToken c = true := of_each (by decide)
  exact ⟨c, first, each c listed⟩

theorem suffixed_takes (text suffix after : List Char) (held : SuffixText suffix) (stops : Stops after) :
    withSuffix (text ++ (suffix ++ after)) text.length = (text ++ suffix).length := by
  rw [withSuffix, List.drop_left, held.takes after stops, List.length_append]

theorem StringText.literal {text suffix : List Char} (held : StringText text) (suffixed : SuffixText suffix) :
    LiteralText (text ++ suffix) where
  shut := shut_suffixed text suffix held.shut suffixed
  begins := quotes_begin text suffix held.starts
  takes after stops := by
    rw [literal?, List.append_assoc, held.takes]
    dsimp only
    rw [suffixed_takes text suffix after suffixed stops]

theorem CharacterText.literal {text suffix : List Char} (held : CharacterText text) (suffixed : SuffixText suffix) :
    LiteralText (text ++ suffix) where
  shut := shut_suffixed text suffix held.shut suffixed
  begins := quotes_begin text suffix held.starts
  takes after stops := by
    rw [literal?, List.append_assoc, held.no_string, held.takes]
    dsimp only
    rw [suffixed_takes text suffix after suffixed stops]

theorem shut_number (text : List Char) (present : text ≠ []) (inside : ∀ c ∈ text, c ∉ edges) : Shut text := by
  obtain ⟨front, c, rfl⟩ := (text.eq_nil_or_concat).resolve_left present
  rw [List.concat_eq_append] at inside ⊢
  exact ⟨front, c, rfl, inside c (by simp)⟩

theorem number_literal (text : List Char) (starts : ∃ c ∈ text.head?, c.isDigit = true) (inside : ∀ c ∈ text, c ∉ edges)
    (takes : ∀ after, Stops after → (∀ c ∈ (text ++ after).head?, c ∉ quoteStarts) →
      literal? (text ++ after) = some text.length) : LiteralText text := by
  obtain ⟨c, first, digit⟩ := starts
  have each : ∀ c ∈ "0123456789".toList, beginsToken c = true ∧ c ∉ quoteStarts := of_each (by decide)
  obtain ⟨begins, unquoted⟩ := each c (digit_cases c digit)
  cases text with
  | nil => cases first
  | cons d text =>
    cases first
    refine ⟨shut_number _ (List.cons_ne_nil _ _) inside, ⟨_, rfl, begins⟩, ?_⟩
    intro after stops
    apply takes after stops
    intro e first
    cases first
    exact unquoted

def LastingLiteral (text : List Char) : Prop := ∀ left, Thinned ' ' text left → LiteralText left

theorem LastingLiteral.literal {text : List Char} (held : LastingLiteral text) : LiteralText text :=
  held text (thinned_refl ' ' text)

theorem StringText.lasting {text suffix : List Char} (held : StringText text) (suffixed : SuffixText suffix) :
    LastingLiteral (text ++ suffix) := by
  intro left thinned
  obtain ⟨front, rfl, thinned_text⟩ :=
    thinned_solid_append ' ' text suffix left (suffix_solid suffix suffixed.word) thinned
  exact (held.thinned ' ' front thinned_text).literal suffixed

theorem CharacterText.lasting {text suffix : List Char} (held : CharacterText text) (suffixed : SuffixText suffix) :
    LastingLiteral (text ++ suffix) := by
  intro left thinned
  obtain ⟨front, rfl, thinned_text⟩ :=
    thinned_solid_append ' ' text suffix left (suffix_solid suffix suffixed.word) thinned
  rw [held.thinned ' ' front thinned_text]
  exact held.literal suffixed

theorem LiteralText.lasting {text : List Char} (held : LiteralText text) (inside : ∀ c ∈ text, c ∉ edges) :
    LastingLiteral text := by
  intro left thinned
  rw [thinned_solid ' ' text left (fun blank => inside ' ' blank (by decide)) thinned]
  exact held

theorem literal_front (cs : List Char) (n : Nat) (read : literal? cs = some n) :
    ∃ text rest, cs = text ++ rest ∧ text.length = n ∧ LastingLiteral text := by
  unfold literal? at read
  split at read
  · rename_i m read_string
    cases read
    obtain ⟨text, rest, rfl, rfl, held⟩ := string_front cs m read_string
    obtain ⟨suffix, rest, rfl, long, suffixed⟩ := with_suffix_front text rest
    exact ⟨text ++ suffix, rest, (List.append_assoc ..).symm, long.symm, held.lasting suffixed⟩
  rename_i no_string
  split at read
  · rename_i m read_character
    cases read
    obtain ⟨text, rest, rfl, rfl, held⟩ := character_front cs m read_character
    obtain ⟨suffix, rest, rfl, long, suffixed⟩ := with_suffix_front text rest
    exact ⟨text ++ suffix, rest, (List.append_assoc ..).symm, long.symm, held.lasting suffixed⟩
  rename_i no_character
  split at read
  · rename_i m read_float
    cases read
    obtain ⟨text, rest, rfl, rfl, starts, inside, takes⟩ := float_front cs n read_float
    refine ⟨text, rest, rfl, rfl, (number_literal text starts inside ?_).lasting inside⟩
    intro after stops unquoted
    obtain ⟨no_string, no_character⟩ := no_quotes (text ++ after) unquoted
    rw [literal?, no_string, no_character, takes after stops]
  · rename_i no_float
    obtain ⟨text, rest, rfl, rfl, starts, word, ended, takes⟩ := int_front cs n read
    have inside (c : Char) (member : c ∈ text) : c ∉ edges := word_no_edge c (word c member)
    refine ⟨text, rest, rfl, rfl, (number_literal text starts inside ?_).lasting inside⟩
    intro after stops unquoted
    obtain ⟨no_string, no_character⟩ := no_quotes (text ++ after) unquoted
    rw [literal?, no_string, no_character, word_no_float text rest after word ended stops no_float, takes after stops]

theorem hex_digit_char (d : Nat) (small : d < 16) : isHex d.digitChar = true ∧ hexValue d.digitChar = d := by
  revert d
  decide

def hexDigitsValue (digits : List Char) (value : Nat) : Nat := digits.foldl (fun value c => 16 * value + hexValue c) value

theorem hex_digits_of (n : Nat) :
    (∀ c ∈ Nat.toDigits 16 n, isHex c = true) ∧ hexDigitsValue (Nat.toDigits 16 n) 0 = n := by
  induction n using Nat.strongRecOn with
  | ind n ih =>
    by_cases small : n < 16
    · rw [Nat.toDigits_of_lt_base small]
      obtain ⟨hex, value⟩ := hex_digit_char n small
      refine ⟨by simpa using hex, ?_⟩
      simp [hexDigitsValue, value]
    · have large : 16 ≤ n := Nat.not_lt.mp small
      obtain ⟨front, value⟩ := ih (n / 16) (by omega)
      obtain ⟨last, last_value⟩ := hex_digit_char (n % 16) (Nat.mod_lt _ (by decide))
      rw [Nat.toDigits_of_base_le (by decide) large]
      constructor
      · intro c member
        cases List.mem_append.mp member with
        | inl earlier => exact front c earlier
        | inr own => rw [List.mem_singleton.mp own]; exact last
      · rw [hexDigitsValue, List.foldl_append]
        change 16 * hexDigitsValue (Nat.toDigits 16 (n / 16)) 0 + hexValue (n % 16).digitChar = n
        rw [value, last_value]
        omega

theorem code_point_digits (digits after : List Char) (count value : Nat) (hex : ∀ c ∈ digits, isHex c = true)
    (present : count + digits.length ≠ 0) (few : count + digits.length ≤ 6)
    (valid : (hexDigitsValue digits value).isValidChar) :
    codePoint? true count value (digits ++ '\x7d' :: after) = some (digits.length + 1) := by
  induction digits generalizing count value with
  | nil =>
    have some_digits : ¬ count = 0 := present
    rw [List.nil_append, codePoint?, if_neg (by decide), if_neg some_digits, if_neg (by decide),
      if_pos ⟨rfl, valid, .inl rfl⟩]
    rfl
  | cons c digits ih =>
    rw [List.length_cons] at few
    have more : count < 6 := by omega
    rw [List.cons_append, codePoint?, if_pos (hex c (List.mem_cons_self ..)), if_pos more,
      ih (count + 1) (16 * value + hexValue c) (fun d member => hex d (List.mem_cons_of_mem c member)) (by omega) (by omega) valid]
    rfl

theorem takes_code_point (c : Char) :
    Takes (escape? .text) ('u' :: '\x7b' :: (Nat.toDigits 16 c.toNat ++ ['\x7d'])) := by
  intro after
  obtain ⟨hex, value⟩ := hex_digits_of c.toNat
  have bound : c.toNat < 16 ^ 6 := by
    have limit : c.toNat < 0xd800 ∨ (0xdfff < c.toNat ∧ c.toNat < 0x110000) := c.valid
    omega
  have few := (Nat.length_toDigits_le_iff (by decide) (by decide)).mpr bound
  have present : (Nat.toDigits 16 c.toNat).length ≠ 0 := by
    have positive := Nat.length_toDigits_pos (b := 16) (n := c.toNat)
    omega
  have read := code_point_digits (Nat.toDigits 16 c.toNat) after 0 0 hex (by omega) (by omega)
    (by rw [value]; exact c.valid)
  rw [List.cons_append, List.cons_append, List.append_assoc, List.singleton_append]
  change (codePoint? true 0 0 (Nat.toDigits 16 c.toNat ++ '\x7d' :: after)).map (· + 2) = _
  rw [read]
  simp

theorem letter_escape_body (d : Char) {body : List Char} (listed : d ∈ ['0', 't', 'r', 'n', '\\', '"'])
    (held : QuotedBody .text body) : QuotedBody .text (['\\', d] ++ body) := by
  have each : ∀ d ∈ ['0', 't', 'r', 'n', '\\', '"'], ' ' ∉ [d] := of_each (by decide)
  apply QuotedBody.escape [d] _ _ (each d listed) held
  intro after
  simp only [List.mem_cons, List.not_mem_nil, or_false] at listed
  obtain rfl | rfl | rfl | rfl | rfl | rfl := listed <;> rfl

theorem point_escape_body (c : Char) {body : List Char} (held : QuotedBody .text body) :
    QuotedBody .text (Text.codePointEscape c ++ body) := by
  have solid : ' ' ∉ Nat.toDigits 16 c.toNat ++ ['\x7d'] := by
    rw [List.mem_append, not_or]
    refine ⟨?_, by decide⟩
    intro inside
    exact hex_no_blank ' ' ((hex_digits_of c.toNat).1 ' ' inside) rfl
  have escaped := QuotedBody.escape _ _ (takes_code_point c) (not_mem_cons (by decide) (not_mem_cons (by decide) solid)) held
  simpa [Text.codePointEscape] using escaped

theorem escaped_body (cs : List Char) : QuotedBody .text (cs.flatMap Text.escapeChar) := by
  induction cs with
  | nil => exact .nil
  | cons c cs ih =>
    rw [List.flatMap_cons, Text.escapeChar]
    by_cases nul : c = '\x00'
    · rw [if_pos nul]
      exact letter_escape_body '0' (by decide) ih
    rw [if_neg nul]
    by_cases tab : c = '\t'
    · rw [if_pos tab]
      exact letter_escape_body 't' (by decide) ih
    rw [if_neg tab]
    by_cases return_mark : c = '\r'
    · rw [if_pos return_mark]
      exact letter_escape_body 'r' (by decide) ih
    rw [if_neg return_mark]
    by_cases line : c = '\n'
    · rw [if_pos line]
      exact letter_escape_body 'n' (by decide) ih
    rw [if_neg line]
    by_cases mark : c = '\\'
    · rw [if_pos mark]
      exact letter_escape_body '\\' (by decide) ih
    rw [if_neg mark]
    by_cases quote : c = '"'
    · rw [if_pos quote]
      exact letter_escape_body '"' (by decide) ih
    rw [if_neg quote]
    split
    · exact point_escape_body c ih
    split
    · exact .plain c _ rfl ⟨quote, return_mark, mark⟩ ih
    · exact point_escape_body c ih

theorem quoted_literal (cs : List Char) : LastingLiteral (Text.quoted cs) := by
  have held := StringText.quoted [] .text (cs.flatMap Text.escapeChar) (by simp) (escaped_body cs)
  have lasting := held.lasting no_suffix
  rw [List.append_nil, List.nil_append] at lasting
  exact lasting

end Lexeme

end ResourceRoutes.Source
