import ResourceRoutes.Proofs.Yaml.Document
import ResourceRoutes.Proofs.Yaml.Token.Block
set_option autoImplicit false

namespace ResourceRoutes.Yaml

open Yaml.Text (spaces isPrintable)

namespace Scan

theorem begins_char (c : Char) (rest : List Char) (blank : isBlank c = false) (breaks : isBreak c = false)
    (comment : c ≠ '#') (mark : c ≠ '\ufeff') : Begins (c :: rest) := by
  rintro d ⟨⟩
  exact ⟨blank, breaks, comment, mark⟩

theorem begins_text (column : Nat) (cs tail : List Char) : Begins (Text.write column cs ++ tail) := by
  cases Text.styled cs with
  | plain style fits present =>
    rw [Text.write, style]
    simpa using begins_plain cs ('\n' :: tail) (Text.plain_of_fits cs fits) present
  | single style =>
    rw [Text.write, style]
    exact begins_char '\'' _ rfl rfl (by decide) (by decide)
  | double style =>
    rw [Text.write, style]
    exact begins_char '"' _ rfl rfl (by decide) (by decide)
  | literal style =>
    rw [Text.write, style]
    exact begins_char '|' _ rfl rfl (by decide) (by decide)

theorem digits_present (n : Nat) : Nat.toDigits 10 n ≠ [] := by
  obtain ⟨first, rest, split, -⟩ := Decimal.digits_start n
  simp [split]

theorem begins_digits (n : Nat) (tail : List Char) : Begins (Nat.toDigits 10 n ++ tail) :=
  begins_plain _ tail (Text.plain_digits _ (Decimal.digits_are_digits n)) (digits_present n)

theorem begins_flag (value : Bool) (tail : List Char) : Begins (flagText value ++ tail) :=
  begins_plain _ tail (Text.plain_flag value) (by cases value <;> decide)

theorem begins_document (column : Nat) (document : Document) (tail : List Char) (named : Named document) :
    Begins (writeAt column document ++ tail) := by
  match document with
  | .text content => exact begins_text column content.toList tail
  | .nat n =>
    rw [writeAt, List.append_assoc]
    exact begins_digits n _
  | .flag value =>
    rw [writeAt, List.append_assoc]
    exact begins_flag value _
  | .list [] => exact begins_char '[' _ rfl rfl (by decide) (by decide)
  | .list (item :: rest) => exact begins_char '-' _ rfl rfl (by decide) (by decide)
  | .record [] => exact begins_char '\x7b' _ rfl rfl (by decide) (by decide)
  | .record ((name, value) :: rest) =>
    obtain ⟨written, plain, present⟩ := write_name name.toList named.1.1
    rw [writeAt, written]
    simpa using begins_plain name.toList _ plain present

theorem items_text (column : Nat) (items : List Document) (tail : List Char) (present : items ≠ []) :
    ∃ text, writeItems column items ++ tail = spaces column ++ text ∧ Begins text := by
  obtain ⟨item, rest, rfl⟩ := List.exists_cons_of_ne_nil present
  refine ⟨'-' :: ' ' :: (writeAt (column + 2) item ++ (writeItems column rest ++ tail)), by simp [writeItems], ?_⟩
  exact begins_char '-' _ rfl rfl (by decide) (by decide)

theorem fields_text (column : Nat) (fields : List (String × Document)) (tail : List Char) (present : fields ≠ [])
    (named : NamedFields fields) :
    ∃ text, writeFields column fields ++ tail = spaces column ++ text ∧ Begins text := by
  obtain ⟨⟨name, value⟩, rest, rfl⟩ := List.exists_cons_of_ne_nil present
  obtain ⟨written, plain, some⟩ := write_name name.toList named.1.1
  refine ⟨name.toList ++ ':' :: (writeValue column value ++ (writeFields column rest ++ tail)),
    by simp [writeFields, written], ?_⟩
  exact begins_plain name.toList _ plain some

theorem gap_value (column : Nat) (document : Document) (tail : List Char) :
    gapFollows (writeValue column document ++ tail) = true := by
  match document with
  | .text content | .nat n | .flag value | .list [] | .list (item :: rest) | .record [] | .record (field :: rest) => rfl

theorem leads_on_line (after : Scan) (rest tail : List Char) (column n h : Nat) (tokens more : List Token)
    (indents outer : List Nat) (here : At after (' ' :: rest) column tokens (h :: indents)) (inside : h ≤ column)
    (begins : Begins rest)
    (leads : ∀ next, At next rest (column + 1) tokens (h :: indents) → Leads next tail n more outer) :
    LeadsOn after tail n more outer := by
  obtain ⟨starts, rfl, rfl, open_blocks, unkeyed, outside⟩ := here
  obtain ⟨next, settled, there, -⟩ := settle_inside after 1 rest starts begins outside unkeyed (by
    rw [open_blocks]
    rintro h ⟨⟩
    omega)
  rw [open_blocks] at there
  exact ⟨next, settled, by rw [there.rest_eq, starts]; simp, leads next there⟩

theorem leads_on_next_line (after : Scan) (rest tail : List Char) (column m n : Nat) (tokens more : List Token)
    (indents outer : List Nat) (here : At after ('\n' :: (spaces m ++ rest)) column tokens indents)
    (begins : Begins rest)
    (leads : ∀ next, AtLine next rest m tokens indents → Leads next tail n more outer) :
    LeadsOn after tail n more outer := by
  obtain ⟨starts, rfl, rfl, rfl, unkeyed, outside⟩ := here
  obtain ⟨next, settled, there⟩ := settle_line after '\n' [] m rest starts (by simp; rfl) begins outside (by simp [unkeyed])
  exact ⟨next, settled, by rw [there.rest_eq, starts]; simp; omega, leads next there⟩

theorem at_line_open (scan : Scan) (rest : List Char) (column : Nat) (tokens : List Token) (indents : List Nat)
    (there : AtLine scan rest column tokens indents) (inside : ∀ h ∈ indents.head?, h ≤ column) :
    At scan rest column tokens indents := by
  have here := there.toAt
  rwa [(closed_outer _ _ _ inside).1, (closed_outer _ tokens _ inside).2] at here

-- What stands on the line of its dash or key.
inductive Inline : Document → Prop
  | text (content : String) : Inline (.text content)
  | nat (m : Nat) : Inline (.nat m)
  | flag (value : Bool) : Inline (.flag value)
  | no_items : Inline (.list [])
  | no_fields : Inline (.record [])

theorem inline_value (column : Nat) (document : Document) (inline : Inline document) :
    writeValue column document = ' ' :: writeAt (column + 2) document := by
  cases inline <;> rfl

theorem lead_inline (place : Place) (document : Document) (inline : Inline document) (scan : Scan)
    (extra tail : List Char) (h n column : Nat) (tokens : List Token) (indents : List Nat)
    (breaks : ∀ c ∈ extra, isPlainBreak c = true) (begins : Begins tail) (outer : n ≤ h) (inside : h < column)
    (here : At scan (writeAt (h + 2) document ++ (extra ++ (spaces n ++ tail))) column tokens (h :: indents)) :
    Leads scan tail n ((nodeTokens place (padded extra document)).reverse ++ tokens) (h :: indents) := by
  have within : ∀ k ∈ (h :: indents).head?, k < column := by
    rintro k ⟨⟩
    exact inside
  cases inline with
  | text content =>
    have leads := lead_text scan content.toList extra tail h n column tokens indents inside breaks begins here outer
    simpa [padded, nodeTokens, Text.style_with_breaks _ extra breaks] using leads
  | nat m =>
    exact lead_plain scan (Nat.toDigits 10 m) extra tail h n column tokens indents inside breaks begins
      (by simpa [writeAt] using here) outer (Text.plain_digits _ (Decimal.digits_are_digits m)) (digits_present m)
  | flag value =>
    exact lead_plain scan (flagText value) extra tail h n column tokens indents inside breaks begins
      (by simpa [writeAt] using here) outer (Text.plain_flag value) (by cases value <;> decide)
  | no_items =>
    exact lead_brackets scan '[' ']' .flowSequenceStart .flowSequenceEnd extra tail n column tokens _ .list within breaks
      begins here
  | no_fields =>
    exact lead_brackets scan '\x7b' '\x7d' .flowMappingStart .flowMappingEnd extra tail n column tokens _ .record within
      breaks begins here

mutual
theorem lead_document (document : Document) (scan : Scan) (extra tail : List Char) (h n : Nat) (tokens : List Token)
    (indents : List Nat) (named : Named document) (breaks : ∀ c ∈ extra, isPlainBreak c = true)
    (begins : Begins tail) (outer : n ≤ h) (allowed : scan.keyAllowed = true)
    (here : At scan (writeAt (h + 2) document ++ (extra ++ (spaces n ++ tail))) (h + 2) tokens (h :: indents)) :
    Leads scan tail n ((nodeTokens .block (padded extra document)).reverse ++ tokens) (h :: indents) := by
  match document with
  | .text content | .nat m | .flag value | .list [] | .record [] =>
    exact lead_inline .block _ (by constructor) scan extra tail h n _ tokens indents breaks begins outer (by omega) here
  | .list (item :: rest) =>
    have leads := lead_items (item :: rest) scan extra tail _ (h + 2) n tokens _ (h :: indents) (h :: indents) (by simp)
      named breaks begins (by omega) allowed (by rw [← list_lines, List.append_assoc]) here (.now _ (by simp))
    have ended := leads_out scan tail n (h + 2) _ (h :: indents) (by omega) leads
    rw [padded, list_tokens _ _ (padded_items_present extra item rest)]
    simpa using ended
  | .record ((name, value) :: rest) =>
    have leads := lead_fields ((name, value) :: rest) scan extra tail _ (h + 2) n tokens _ (h :: indents) (h :: indents)
      (by simp) named breaks begins (by omega) (by omega) allowed (by rw [← record_lines, List.append_assoc]) here (.now _ (by simp))
    have ended := leads_out scan tail n (h + 2) _ (h :: indents) (by omega) leads
    rw [padded, record_tokens _ _ (padded_fields_present extra (name, value) rest)]
    simpa using ended

theorem lead_items (items : List Document) (scan : Scan) (extra tail text : List Char) (column n : Nat)
    (tokens opened : List Token) (indents outer : List Nat) (present : items ≠ []) (named : NamedItems items)
    (breaks : ∀ c ∈ extra, isPlainBreak c = true) (begins : Begins tail) (inside : n ≤ column)
    (allowed : scan.keyAllowed = true)
    (written : spaces column ++ text = writeItems column items ++ (extra ++ (spaces n ++ tail)))
    (here : At scan text column tokens indents)
    (opens : Opens column .blockSequenceStart tokens indents opened (column :: outer)) :
    Leads scan tail n ((itemTokens (paddedItems extra items)).reverse ++ opened) (column :: outer) := by
  match items with
  | [] => exact absurd rfl present
  | [item] =>
    simp only [writeItems, List.append_nil, List.append_assoc, List.cons_append, List.append_cancel_left_eq] at written
    subst written
    obtain ⟨next, advances, there, keyed⟩ := read_entry scan _ column tokens opened indents (column :: outer) here allowed
      (begins_document _ item _ named.1) opens
    have leads := lead_document item next extra tail column n (.blockEntry :: opened) outer named.1 breaks begins inside
      keyed there
    simpa [paddedItems, itemTokens] using leads_after scan next tail n _ _ advances leads
  | item :: second :: rest =>
    rw [writeItems] at written
    simp only [List.append_assoc, List.cons_append, List.append_cancel_left_eq] at written
    subst written
    obtain ⟨next, advances, there, keyed⟩ := read_entry scan _ column tokens opened indents (column :: outer) here allowed
      (begins_document _ item _ named.1) opens
    let line := '-' :: ' ' :: (writeAt (column + 2) second ++ (writeItems column rest ++ (extra ++ (spaces n ++ tail))))
    have lines : spaces column ++ line = writeItems column (second :: rest) ++ (extra ++ (spaces n ++ tail)) := by
      simp [writeItems, line]
    rw [← lines] at there
    obtain ⟨stop, moved, at_line⟩ := lead_document item next [] line column column (.blockEntry :: opened) outer named.1
      (by simp) (begins_char '-' _ rfl rfl (by decide) (by decide)) (Nat.le_refl _) keyed there
    have leads := lead_items (second :: rest) stop extra tail line column n _ _ (column :: outer) outer (by simp) named.2
      breaks begins inside at_line.allowed lines (at_line_open stop line column _ _ at_line (by simp)) (.before outer)
    have both := leads_after scan stop tail n _ _ (advances_trans scan next stop advances moved) leads
    rw [padded_nothing] at both
    simpa [paddedItems, itemTokens] using both

theorem lead_fields (fields : List (String × Document)) (scan : Scan) (extra tail text : List Char) (column n : Nat)
    (tokens opened : List Token) (indents outer : List Nat) (present : fields ≠ []) (named : NamedFields fields)
    (breaks : ∀ c ∈ extra, isPlainBreak c = true) (begins : Begins tail) (inside : n ≤ column) (beyond : 0 < column)
    (allowed : scan.keyAllowed = true)
    (written : spaces column ++ text = writeFields column fields ++ (extra ++ (spaces n ++ tail)))
    (here : At scan text column tokens indents)
    (opens : Opens column .blockMappingStart tokens indents opened (column :: outer)) :
    Leads scan tail n ((fieldTokens (paddedFields extra fields)).reverse ++ opened) (column :: outer) := by
  match fields with
  | [] => exact absurd rfl present
  | [(name, value)] =>
    obtain ⟨key, plain, some⟩ := write_name name.toList named.1.1
    simp only [writeFields, key, List.append_nil, List.append_assoc, List.cons_append,
      List.append_cancel_left_eq] at written
    subst written
    obtain ⟨after, there, follow⟩ := read_key scan name.toList _ column tokens opened indents (column :: outer) here allowed
      beyond plain some named.1.2 (gap_value column value _) opens
    have leads := lead_value value after extra tail column n _ _ outer named.2.1 breaks begins inside (by omega) there
    simpa [paddedFields, fieldTokens] using follow tail n _ _ leads
  | (name, value) :: second :: rest =>
    obtain ⟨key, plain, some⟩ := write_name name.toList named.1.1
    obtain ⟨line, lines, line_begins⟩ := fields_text column (second :: rest) (extra ++ (spaces n ++ tail)) (by simp)
      named.2.2
    rw [writeFields, key] at written
    simp only [List.append_assoc, List.cons_append, List.append_cancel_left_eq] at written
    rw [lines] at written
    subst written
    obtain ⟨after, there, follow⟩ := read_key scan name.toList _ column tokens opened indents (column :: outer) here allowed
      beyond plain some named.1.2 (gap_value column value _) opens
    obtain ⟨stop, moved, at_line⟩ := follow line column _ _ (lead_value value after [] line column column _ _ outer
      named.2.1 (by simp) line_begins (Nat.le_refl _) (by omega) there)
    have leads := lead_fields (second :: rest) stop extra tail line column n _ _ (column :: outer) outer (by simp) named.2.2
      breaks begins inside beyond at_line.allowed lines.symm (at_line_open stop line column _ _ at_line (by simp))
      (.before outer)
    have both := leads_after scan stop tail n _ _ moved leads
    rw [padded_nothing] at both
    simpa [paddedFields, fieldTokens] using both

theorem lead_value (document : Document) (after : Scan) (extra tail : List Char) (h n column : Nat) (tokens : List Token)
    (indents : List Nat) (named : Named document) (breaks : ∀ c ∈ extra, isPlainBreak c = true)
    (begins : Begins tail) (outer : n ≤ h) (inside : h < column)
    (here : At after (writeValue h document ++ (extra ++ (spaces n ++ tail))) column tokens (h :: indents)) :
    LeadsOn after tail n ((nodeTokens .blockOfMapping (padded extra document)).reverse ++ tokens) (h :: indents) := by
  match document with
  | .text content | .nat m | .flag value | .list [] | .record [] =>
    rw [inline_value h _ (by constructor)] at here
    refine leads_on_line after _ tail column n h tokens _ indents _ here (Nat.le_of_lt inside)
      (begins_document _ _ _ named) fun next there => ?_
    exact lead_inline .blockOfMapping _ (by constructor) next extra tail h n _ tokens indents breaks begins outer
      (Nat.lt_succ_of_lt inside) there
  | .list (item :: rest) =>
    obtain ⟨text, lines, text_begins⟩ := items_text h (item :: rest) (extra ++ (spaces n ++ tail)) (by simp)
    have below : At after ('\n' :: (spaces h ++ text)) column tokens (h :: indents) := by
      rw [← lines]
      exact here
    refine leads_on_next_line after text tail column h n tokens _ _ _ below text_begins fun next there => ?_
    have leads := lead_items (item :: rest) next extra tail text h n tokens _ (h :: indents) indents (by simp) named breaks
      begins outer there.allowed lines.symm (at_line_open next text h _ _ there (by simp)) (.before indents)
    rw [padded, list_tokens _ _ (padded_items_present extra item rest)]
    simpa using leads
  | .record (field :: rest) =>
    obtain ⟨text, lines, text_begins⟩ := fields_text (h + 2) (field :: rest) (extra ++ (spaces n ++ tail)) (by simp) named
    have below : At after ('\n' :: (spaces (h + 2) ++ text)) column tokens (h :: indents) := by
      rw [← lines]
      exact here
    refine leads_on_next_line after text tail column (h + 2) n tokens _ _ _ below text_begins fun next there => ?_
    have leads := lead_fields (field :: rest) next extra tail text (h + 2) n tokens _ (h :: indents) (h :: indents) (by simp)
      named breaks begins (by omega) (by omega) there.allowed lines.symm
      (at_line_open next text (h + 2) _ _ there (by simp)) (.now _ (by simp))
    have ended := leads_out next tail n (h + 2) _ (h :: indents) (by omega) leads
    rw [padded, record_tokens _ _ (padded_fields_present extra field rest)]
    simpa using ended
end

theorem proceed_end (scan : Scan) (column fuel : Nat) (tokens : List Token) (indents : List Nat)
    (here : At scan [] column tokens indents) :
    scan.proceed? fuel = some (List.replicate indents.length Token.blockEnd ++ tokens).reverse := by
  obtain ⟨ended, rfl, rfl, rfl, unkeyed, outside⟩ := here
  rw [proceed?, ended]
  simp [closeAllBlocks, inFlow, outside, dropKey?, unkeyed]

def start (cs : List Char) : Scan := { at' := ⟨cs, 0, 0, 0⟩ }

theorem start_at (cs : List Char) : At (start cs) cs 0 [] [] := ⟨rfl, rfl, rfl, rfl, rfl, rfl⟩

theorem start_settled (cs : List Char) (begins : Begins cs) : (start cs).settle? = some (start cs) :=
  settle_skipped (start cs) (start cs).at' true none (skip_gap_spaces (start cs) 0 cs.length cs rfl begins) rfl rfl

theorem run_leads (cs : List Char) (tokens : List Token) (indents : List Nat) (begins : Begins cs)
    (low : ∀ h ∈ indents.head?, h ≤ 0) (leads : Leads (start cs) [] 0 tokens indents) :
    run? (cs.length + 1) (start cs) = some (List.replicate indents.length Token.blockEnd ++ tokens).reverse := by
  obtain ⟨stop, advances, there⟩ := leads
  obtain ⟨left, proceeds, _⟩ := advances_proceed (start cs) stop advances cs.length (Nat.le_refl _)
  rw [run_succ, start_settled cs begins, Option.bind_eq_bind, Option.bind_some, proceeds]
  exact proceed_end stop 0 left tokens indents (at_line_open stop [] 0 tokens indents there low)

theorem run_list (items : List Document) (extra cs : List Char) (named : NamedItems items)
    (breaks : ∀ c ∈ extra, isPlainBreak c = true) (written : cs = writeAt 0 (.list items) ++ extra) :
    run? (cs.length + 1) (start cs) = some (nodeTokens .block (padded extra (.list items))) := by
  have ending : Begins [] := by simp [Begins]
  have begins : Begins cs := by
    rw [written]
    exact begins_document 0 (.list items) extra named
  match items with
  | [] =>
    have here : At (start cs) ('[' :: ']' :: '\n' :: (extra ++ (spaces 0 ++ []))) 0 [] [] := by
      have text : cs = '[' :: ']' :: '\n' :: (extra ++ (spaces 0 ++ [])) := by simp [written, writeAt, spaces]
      rw [← text]
      exact start_at cs
    have leads := lead_brackets (start cs) '[' ']' .flowSequenceStart .flowSequenceEnd extra [] 0 0 [] [] .list (by simp)
      breaks ending here
    exact run_leads cs _ [] begins (by simp) leads
  | item :: rest =>
    have text : spaces 0 ++ cs = writeItems 0 (item :: rest) ++ (extra ++ (spaces 0 ++ [])) := by
      rw [← list_lines, written]
      simp [spaces]
    have leads := lead_items (item :: rest) (start cs) extra [] cs 0 0 [] _ [] [] (by simp) named breaks ending
      (Nat.le_refl _) rfl text (start_at cs) (.now [] (by simp))
    rw [padded, list_tokens _ _ (padded_items_present extra item rest), run_leads cs _ [0] begins (by simp) leads]
    simp

end Scan

theorem tokens_written (items : List Document) (extra : List Char) (named : NamedItems items)
    (breaks : ∀ c ∈ extra, isPlainBreak c = true) :
    tokens? (write (.list items) ++ extra) = some (nodeTokens .block (padded extra (.list items))) := by
  have printable : ∀ c ∈ write (.list items) ++ extra, isPrintable c = true :=
    List.forall_mem_append.mpr ⟨write_at_printable (.list items) 0 named, fun c member =>
      plain_break_printable c (breaks c member)⟩
  have stream : (write (.list items) ++ extra).all isStreamChar = true :=
    List.all_eq_true.mpr fun c member => printable_stream c (printable c member)
  rw [tokens?, if_pos stream]
  exact Scan.run_list items extra _ named breaks rfl

end ResourceRoutes.Yaml
