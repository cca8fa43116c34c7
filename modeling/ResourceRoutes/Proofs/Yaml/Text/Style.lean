import ResourceRoutes.Proofs.Yaml.Text.Literal
import ResourceRoutes.Proofs.Yaml.Text.Plain
import ResourceRoutes.Proofs.Yaml.Text.Quoted
set_option autoImplicit false

namespace ResourceRoutes.Yaml.Text

inductive Styled (cs : List Char) : Prop
  | plain (style : style cs = .plain) (fits : fitsPlain cs = true) (present : cs ≠ [])
  | single (style : style cs = .singleQuoted) (fits : fitsSingle cs = true) (unfed : cs.contains '\n' = false)
  | double (style : style cs = .doubleQuoted)
  | literal (style : style cs = .literal) (fed : cs.contains '\n' = true) (fits : fitsLiteral cs = true)

theorem styled (cs : List Char) : Styled cs := by
  by_cases fed : cs.contains '\n' = true
  · by_cases fits : fitsLiteral cs = true
    · exact .literal (by rw [style, if_pos fed, if_pos fits]) fed fits
    · exact .double (by rw [style, if_pos fed, if_neg fits])
  · by_cases plain : (fitsPlain cs && !isAmbiguous cs) = true
    · have both := plain
      simp only [Bool.and_eq_true, Bool.not_eq_true'] at both
      refine .plain (by rw [style, if_neg fed, if_pos plain]) both.1 ?_
      rintro rfl
      exact absurd both.2 (by decide)
    · by_cases fits : fitsSingle cs = true
      · exact .single (by rw [style, if_neg fed, if_neg plain, if_pos fits]) fits (by simpa using fed)
      · exact .double (by rw [style, if_neg fed, if_neg plain, if_neg fits])

theorem pair_free_none (p q : Char → Bool) (cs : List Char) (none : ∀ c ∈ cs, p c = false) :
    hasPair p q cs = false := by
  induction cs with
  | nil => rfl
  | cons c cs ih =>
    have others := ih fun d member => none d (List.mem_cons_of_mem _ member)
    cases cs with
    | nil => rfl
    | cons d cs => simp [hasPair, none c (List.mem_cons_self ..), others]

theorem pair_free_append (p q : Char → Bool) (cs breaks : List Char) (free : hasPair p q cs = false)
    (last : ∀ c ∈ cs.getLast?, p c = false) (none : ∀ c ∈ breaks, p c = false) :
    hasPair p q (cs ++ breaks) = false := by
  induction cs with
  | nil => exact pair_free_none p q breaks none
  | cons c cs ih =>
    cases cs with
    | nil =>
      refine pair_free_none p q _ fun d member => ?_
      rcases List.mem_cons.mp member with rfl | member
      · exact last _ rfl
      · exact none d member
    | cons d cs =>
      simp only [hasPair, Bool.or_eq_false_iff] at free
      have others := ih free.2 (by simpa using last)
      simp only [List.cons_append, hasPair, Bool.or_eq_false_iff] at others ⊢
      exact ⟨free.1, others⟩

theorem style_with_breaks (cs extra : List Char) (breaks : ∀ c ∈ extra, isPlainBreak c = true) :
    style (withBreaks cs extra) = style cs := by
  by_cases kept : style cs = .literal ∧ chompingMark cs = ['+']
  · rw [withBreaks, if_pos kept]
    cases styled cs with
    | literal written fed fits =>
      simp only [fitsLiteral, Bool.and_eq_true, Bool.not_eq_true', List.all_eq_true] at fits
      obtain ⟨⟨printable, last⟩, free⟩ := fits
      have solid : ∀ c ∈ cs.getLast?, isSpace c = false := by
        intro c held
        rw [Option.mem_def] at held
        simpa [held] using last
      have spaceless : ∀ c ∈ extra, isSpace c = false := by
        intro c member
        have blank := break_not_blank c (plain_break_breaks c (breaks c member))
        simp only [isBlank, Bool.or_eq_false_iff] at blank
        exact blank.1
      have still_last : (cs ++ extra).getLast?.any isSpace = false := by
        rw [List.getLast?_append]
        cases held : extra.getLast? with
        | none => simpa using last
        | some c => simpa using spaceless c (List.mem_of_getLast? held)
      have still_printable : (cs ++ extra).all isPrintable = true := by
        rw [List.all_append, Bool.and_eq_true, List.all_eq_true, List.all_eq_true]
        exact ⟨printable, fun c member => plain_break_printable c (breaks c member)⟩
      have still_fits : fitsLiteral (cs ++ extra) = true := by
        rw [fitsLiteral, still_printable, still_last, pair_free_append _ _ cs extra free solid spaceless]
        rfl
      have still_fed : (cs ++ extra).contains '\n' = true := by
        rw [List.contains_iff_mem] at fed ⊢
        exact List.mem_append_left _ fed
      rw [written, style, if_pos still_fed, if_pos still_fits]
    | plain other => rw [kept.1] at other; cases other
    | single other => rw [kept.1] at other; cases other
    | double other => rw [kept.1] at other; cases other
  · rw [withBreaks, if_neg kept]

theorem spaces_printable (n : Nat) : ∀ c ∈ spaces n, isPrintable c = true := by
  intro c member
  rw [List.eq_of_mem_replicate member]
  rfl

theorem indent_printable (indent : Nat) (broken : Bool) (cs : List Char) (printable : ∀ c ∈ cs, isPrintable c = true) :
    ∀ c ∈ indentAfterBreaks indent broken cs, isPrintable c = true := by
  induction cs generalizing broken with
  | nil => simp [indentAfterBreaks]
  | cons c cs ih =>
    obtain ⟨first, others⟩ := List.forall_mem_cons.mp printable
    rw [indentAfterBreaks]
    split
    · exact List.forall_mem_cons.mpr ⟨first, ih true others⟩
    · refine List.forall_mem_append.mpr ⟨?_, List.forall_mem_cons.mpr ⟨first, ih false others⟩⟩
      split
      · exact spaces_printable indent
      · simp

theorem hex_printable (width n : Nat) : ∀ c ∈ hexDigits width n, isPrintable c = true := by
  induction width generalizing n with
  | zero => simp [hexDigits]
  | succ width ih =>
    have digit : ∀ m < 16, isPrintable (hexDigit m) = true := by decide
    have last := digit (n % 16) (Nat.mod_lt _ (by decide))
    exact List.forall_mem_append.mpr ⟨ih (n / 16), by simpa using last⟩

theorem letter_printable (c letter : Char) (escape : escapeLetter? c = some letter) : isPrintable letter = true := by
  rw [escapeLetter?.eq_def] at escape
  split at escape <;> cases escape <;> rfl

theorem code_printable (mark : Char) (width n : Nat) (printable : isPrintable mark = true) :
    ∀ c ∈ '\\' :: mark :: hexDigits width n, isPrintable c = true :=
  List.forall_mem_cons.mpr ⟨rfl, List.forall_mem_cons.mpr ⟨printable, hex_printable width n⟩⟩

theorem escape_printable (c : Char) : ∀ d ∈ escapeChar c, isPrintable d = true := by
  rw [escapeChar]
  split
  · rename_i letter escape
    exact List.forall_mem_cons.mpr ⟨rfl, by simpa using letter_printable c letter escape⟩
  · split
    · rename_i printable
      simpa using printable
    · split
      · exact code_printable 'x' 2 c.toNat rfl
      · split
        · exact code_printable 'u' 4 c.toNat rfl
        · exact code_printable 'U' 8 c.toNat rfl

theorem double_quoted_printable (cs : List Char) : ∀ c ∈ doubleQuoted cs, isPrintable c = true := by
  have escaped : ∀ c ∈ cs.flatMap escapeChar, isPrintable c = true := by
    intro c member
    obtain ⟨d, _, escaped⟩ := List.mem_flatMap.mp member
    exact escape_printable d c escaped
  exact List.forall_mem_append.mpr ⟨List.forall_mem_cons.mpr ⟨rfl, escaped⟩, List.forall_mem_singleton.mpr rfl⟩

theorem single_quoted_printable (indent : Nat) (cs : List Char) (printable : ∀ c ∈ cs, isPrintable c = true) :
    ∀ c ∈ singleQuoted indent cs, isPrintable c = true := by
  have doubled : ∀ c ∈ cs.flatMap doubleQuote, isPrintable c = true := by
    intro c member
    obtain ⟨d, held, doubled⟩ := List.mem_flatMap.mp member
    have same : c = d := by
      rw [doubleQuote] at doubled
      split at doubled <;> simp_all
    rw [same]
    exact printable d held
  have indented := indent_printable indent false _ doubled
  refine List.forall_mem_append.mpr ⟨List.forall_mem_append.mpr ⟨List.forall_mem_cons.mpr ⟨rfl, indented⟩, ?_⟩,
    List.forall_mem_singleton.mpr rfl⟩
  split
  · exact spaces_printable indent
  · simp

theorem literal_printable (indent : Nat) (cs : List Char) (printable : ∀ c ∈ cs, isPrintable c = true) :
    ∀ c ∈ literal indent cs, isPrintable c = true := by
  have mark : ∀ c ∈ indentMark cs, isPrintable c = true := by
    rw [indentMark]
    split
    · exact List.forall_mem_singleton.mpr rfl
    · simp
  have chomping : ∀ c ∈ chompingMark cs, isPrintable c = true := by
    by_cases none : cs = []
    · subst none
      exact List.forall_mem_singleton.mpr rfl
    · cases ending cs none with
      | solid mark => rw [mark]; exact List.forall_mem_singleton.mpr rfl
      | single mark => rw [mark]; simp
      | several mark => rw [mark]; exact List.forall_mem_singleton.mpr rfl
  have indented := indent_printable indent true cs printable
  have marked : ∀ c ∈ '|' :: indentMark cs, isPrintable c = true := List.forall_mem_cons.mpr ⟨rfl, mark⟩
  exact List.forall_mem_append.mpr ⟨List.forall_mem_append.mpr ⟨marked, chomping⟩, List.forall_mem_cons.mpr ⟨rfl, indented⟩⟩

theorem feed_printable : ∀ c ∈ ['\n'], isPrintable c = true := List.forall_mem_singleton.mpr rfl

theorem write_printable (indent : Nat) (cs : List Char) : ∀ c ∈ write indent cs, isPrintable c = true := by
  cases styled cs with
  | plain written fits =>
    rw [write, written]
    exact List.forall_mem_append.mpr ⟨(plain_of_fits cs fits).printable, feed_printable⟩
  | single written fits unfed =>
    rw [write, written]
    exact List.forall_mem_append.mpr ⟨single_quoted_printable indent cs (single_of_fits cs fits unfed).printable, feed_printable⟩
  | double written =>
    rw [write, written]
    exact List.forall_mem_append.mpr ⟨double_quoted_printable cs, feed_printable⟩
  | literal written fed fits =>
    simp only [fitsLiteral, Bool.and_eq_true, List.all_eq_true] at fits
    rw [write, written]
    refine List.forall_mem_append.mpr ⟨literal_printable indent cs fits.1.1, ?_⟩
    exact fun c member => plain_break_printable c (closing_breaks cs c member)

end ResourceRoutes.Yaml.Text
