import ResourceRoutes.Proofs.Yaml.Text.Quoted
import ResourceRoutes.Proofs.Yaml.Text.Style
import ResourceRoutes.Proofs.Yaml.Token.Layout
set_option autoImplicit false

namespace ResourceRoutes.Yaml

open Yaml.Text (spaces isPrintable startsLikeIndicator withBreaks closing)

namespace Scan

theorem plain_start (c : Char) (cs : List Char) (plain : Text.Plain (c :: cs)) :
    (∀ d ∈ "#,[]\x7b\x7d&*!|>'\"%@`".toList, c ≠ d) ∧ (c = '-' ∨ c = '?' ∨ c = ':' → gapFollows cs = false) ∧
      isBlank c = false := by
  have starts := plain.unambiguous
  simp only [startsLikeIndicator, Bool.or_eq_false_iff, Bool.and_eq_false_imp] at starts
  obtain ⟨⟨⟨listed, gap⟩, _⟩, _⟩ := starts
  refine ⟨?_, ?_, ?_⟩
  · rintro d member rfl
    rw [List.contains_iff_mem.mpr member] at listed
    cases listed
  · intro indicator
    refine gap ?_
    rcases indicator with rfl | rfl | rfl <;> decide
  · refine printable_blank c (plain.printable c (List.mem_cons_self ..)) ?_
    rintro rfl
    exact plain.unindented rfl

theorem gap_no_blank (cs : List Char) (gap : gapFollows cs = false) : cs.head?.any isBlank = false := by
  cases cs with
  | nil => rfl
  | cons c cs =>
    simp only [gapFollows, Bool.or_eq_false_iff] at gap
    exact gap.1

theorem fetch_plain (scan : Scan) (c : Char) (cs tail : List Char) (plain : Text.Plain (c :: cs))
    (outside : scan.outerKeys = []) (beyond : 0 < scan.at'.column) :
    scan.fetch? c (cs ++ tail) = scan.fetchPlain? := by
  obtain ⟨listed, gap, blank⟩ := plain_start c cs plain
  have column : scan.at'.column ≠ 0 := by omega
  have gap (indicator : c = '-' ∨ c = '?' ∨ c = ':') := gap_follows_append cs tail (gap indicator)
  simp only [String.reduceToList, List.mem_cons, List.not_mem_nil, or_false, ne_eq, forall_eq_or_imp,
    forall_eq] at listed
  have begins : beginsPlain false c (cs ++ tail) = true := by
    by_cases indicator : c = '-' ∨ c = '?' ∨ c = ':'
    · have unblank := gap_no_blank _ (gap indicator)
      rw [beginsPlain, unblank, gap indicator]
      rcases indicator with rfl | rfl | rfl <;> rfl
    · simp only [not_or] at indicator
      simp [beginsPlain, isIndicator, blank, indicator, listed]
  have unmarked (d : Char) (mark : d = '-' ∨ d = '?' ∨ d = ':') : (c == d && gapFollows (cs ++ tail)) = false := by
    by_cases same : c = d
    · subst same
      rw [gap mark, Bool.and_false]
    · simp [same]
  simp [fetch?, Cursor.marks_beyond, beyond, column, inFlow, outside, listed, begins, unmarked]

theorem fetch_quoted_single (scan : Scan) (rest : List Char) (beyond : 0 < scan.at'.column) :
    scan.fetch? '\'' rest = scan.fetchKeyed? (quoted .singleQuoted '\'' scan.at') := by
  simp [fetch?, Cursor.marks_beyond, beyond]

theorem fetch_quoted_double (scan : Scan) (rest : List Char) (beyond : 0 < scan.at'.column) :
    scan.fetch? '"' rest = scan.fetchKeyed? (quoted .doubleQuoted '"' scan.at') := by
  simp [fetch?, Cursor.marks_beyond, beyond]

theorem fetch_literal (scan : Scan) (rest : List Char) (outside : scan.outerKeys = []) (beyond : 0 < scan.at'.column) :
    scan.fetch? '|' rest = scan.fetchBlockScalar? .literal := by
  simp [fetch?, Cursor.marks_beyond, beyond, inFlow, outside]

theorem save_loose_key (scan : Scan) (optional : scan.indents.head? ≠ some scan.at'.column)
    (unkeyed : scan.key = none) :
    ∃ key, scan.saveKey? = some { scan with key } ∧
      ∀ pending ∈ key, pending.required = false ∧ pending.line = scan.at'.line ∧ pending.index = scan.at'.index := by
  by_cases allowed : scan.keyAllowed = true
  · refine ⟨_, by simp [saveKey?, allowed, dropKey?, unkeyed]; rfl, ?_⟩
    intro pending held
    rw [Option.mem_def, Option.some_inj] at held
    simp [← held, optional]
  · refine ⟨none, ?_, by simp⟩
    rw [saveKey?, if_neg allowed, ← unkeyed]

theorem inside_optional (indents : List Nat) (column : Nat) (inside : ∀ h ∈ indents.head?, h < column) :
    indents.head? ≠ some column := fun same => Nat.lt_irrefl column (inside column same)

theorem lead_line_end (scan fetched : Scan) (c : Char) (rest : List Char) (b : Char) (breaks : List Char) (n : Nat)
    (tail : List Char) (starts : scan.at'.rest = c :: rest) (fetch : scan.fetch? c rest = some fetched)
    (here : fetched.at'.rest = b :: breaks ++ (spaces n ++ tail)) (plain : ∀ c ∈ b :: breaks, isPlainBreak c = true)
    (begins : Begins tail) (outside : fetched.outerKeys = [])
    (loose : ∀ pending ∈ fetched.key, pending.required = false ∧ pending.line ≤ fetched.at'.line)
    (shorter : tail.length < scan.at'.rest.length) : Leads scan tail n fetched.tokens fetched.indents := by
  obtain ⟨next, settled, there⟩ := settle_line fetched b breaks n tail here plain begins outside loose
  have round := advances_round scan fetched next c rest starts fetch settled (by rw [there.rest_eq]; exact shorter)
  exact ⟨next, round, there⟩

theorem lead_next_line (scan fetched : Scan) (c : Char) (rest tail : List Char) (starts : scan.at'.rest = c :: rest)
    (fetch : scan.fetch? c rest = some fetched) (here : fetched.at'.rest = tail) (begins : Begins tail)
    (outside : fetched.outerKeys = []) (allowed : fetched.keyAllowed = true)
    (late : ∀ pending ∈ fetched.key, pending.required = false ∧ pending.line < fetched.at'.line)
    (shorter : tail.length < scan.at'.rest.length) :
    Leads scan tail fetched.at'.column fetched.tokens fetched.indents := by
  obtain ⟨next, settled, there⟩ := settle_next_line fetched tail here begins outside allowed late
  have round := advances_round scan fetched next c rest starts fetch settled (by rw [there.rest_eq]; exact shorter)
  exact ⟨next, round, there⟩

section scalars

variable (scan : Scan) (cs extra tail : List Char) (h n column : Nat) (tokens : List Token) (indents : List Nat)
  (inside : h < column) (breaks : ∀ c ∈ extra, isPlainBreak c = true) (begins : Begins tail)

include inside breaks begins

theorem lead_plain (here : At scan (cs ++ '\n' :: (extra ++ (spaces n ++ tail))) column tokens (h :: indents))
    (outer : n ≤ h) (plain : Text.Plain cs) (present : cs ≠ []) :
    Leads scan tail n (.scalar cs .plain :: tokens) (h :: indents) := by
  obtain ⟨rest, rfl, rfl, open_blocks, unkeyed, outside⟩ := here
  obtain ⟨c, word, rfl⟩ := List.exists_cons_of_ne_nil present
  obtain ⟨key, saved, loose⟩ := save_loose_key scan (by simp [open_blocks]; omega) unkeyed
  obtain ⟨gap, stop, read, broken, stop_rest, rfl, line⟩ := Text.read_plain_line (h + 1) n (c :: word) extra tail
    (scan.at'.rest.length + 1) scan.at' (by rw [rest]; simp) plain breaks (begins_settled tail begins) (by omega)
    (by omega) (by rw [rest]; simp only [List.length_cons, List.length_append]; omega)
  have fetch : scan.fetch? c (word ++ '\n' :: (extra ++ (spaces stop.column ++ tail))) = some { scan with
      key, at' := stop, tokens := .scalar (c :: word) .plain :: scan.tokens, keyAllowed := true } := by
    rw [fetch_plain scan c word _ plain outside (by omega), fetchPlain?, saved]
    simp [open_blocks, read, broken, inFlow, outside, emit]
  have leads := lead_next_line scan _ c _ tail rest fetch stop_rest begins outside rfl (fun pending held =>
    ⟨(loose pending held).1, by rw [(loose pending held).2.1]; exact line⟩) (by rw [rest]; simp; omega)
  rw [← open_blocks]
  exact leads

theorem lead_quoted (c : Char) (rest : List Char) (style : Style) (stop : Cursor)
    (here : At scan (c :: rest) column tokens (h :: indents))
    (fetch : scan.fetch? c rest = scan.fetchKeyed? (some (.scalar cs style, stop)))
    (stop_rest : stop.rest = '\n' :: (extra ++ (spaces n ++ tail))) (line : scan.at'.line ≤ stop.line)
    (shorter : tail.length ≤ rest.length) : Leads scan tail n (.scalar cs style :: tokens) (h :: indents) := by
  obtain ⟨starts, rfl, rfl, open_blocks, unkeyed, outside⟩ := here
  obtain ⟨key, saved, loose⟩ := save_loose_key scan (by simp [open_blocks]; omega) unkeyed
  have fetched : scan.fetch? c rest = some { scan with
      key, at' := stop, tokens := .scalar cs style :: scan.tokens, keyAllowed := false } := by
    rw [fetch, fetchKeyed?, saved]
    rfl
  have plain : ∀ d ∈ '\n' :: extra, isPlainBreak d = true := by
    intro d member
    rcases List.mem_cons.mp member with rfl | member
    · rfl
    · exact breaks d member
  have leads := lead_line_end scan _ c rest '\n' extra n tail starts fetched stop_rest plain begins outside
    (fun pending held => ⟨(loose pending held).1, by rw [(loose pending held).2.1]; exact line⟩)
    (by rw [starts, List.length_cons]; omega)
  rw [← open_blocks]
  exact leads

theorem lead_single_quoted
    (here : At scan (Text.singleQuoted (h + 2) cs ++ '\n' :: (extra ++ (spaces n ++ tail))) column tokens (h :: indents))
    (fits : Text.Single cs) : Leads scan tail n (.scalar cs .singleQuoted :: tokens) (h :: indents) := by
  obtain ⟨stop, read, stop_rest, line⟩ := Text.read_single_quoted (h + 2) cs _ scan.at' here.rest_eq fits (by simp)
    (by omega)
  have column := here.column_eq
  refine lead_quoted scan cs extra tail h n _ tokens indents inside breaks begins '\'' _ .singleQuoted stop here ?_ stop_rest
    line (by simp; omega)
  rw [fetch_quoted_single scan _ (by omega), quoted, read]
  rfl

theorem lead_double_quoted
    (here : At scan (Text.doubleQuoted cs ++ '\n' :: (extra ++ (spaces n ++ tail))) column tokens (h :: indents)) :
    Leads scan tail n (.scalar cs .doubleQuoted :: tokens) (h :: indents) := by
  obtain ⟨stop, read, stop_rest, line⟩ := Text.read_double_quoted cs _ scan.at' here.rest_eq
  have column := here.column_eq
  refine lead_quoted scan cs extra tail h n _ tokens indents inside breaks begins '"' _ .doubleQuoted stop here ?_
    stop_rest line (by simp; omega)
  rw [fetch_quoted_double scan _ (by omega), quoted, read]
  rfl

theorem lead_literal
    (here : At scan (Text.literal (h + 2) cs ++ closing cs ++ (extra ++ (spaces n ++ tail))) column tokens (h :: indents))
    (outer : n ≤ h) (style : Text.style cs = .literal) (present : cs ≠ []) (printable : ∀ c ∈ cs, isPrintable c = true) :
    Leads scan tail n (.scalar (withBreaks cs extra) .literal :: tokens) (h :: indents) := by
  obtain ⟨starts, rfl, rfl, open_blocks, unkeyed, outside⟩ := here
  have after := Cursor.skip_rest scan.at' ['|'] _ 1 starts rfl
  obtain ⟨stop, read, stop_rest, rfl, line⟩ := Text.read_literal h n cs extra tail (scan.at'.skip 1) style present
    printable breaks (by omega) (begins_settled tail begins) after
  have fetch (rest : List Char) : scan.fetch? '|' rest = some { scan with
      key := none, at' := stop, tokens := .scalar (withBreaks cs extra) .literal :: scan.tokens, keyAllowed := true } := by
    rw [fetch_literal scan rest outside (by omega), fetchBlockScalar?]
    simp [dropKey?, unkeyed, open_blocks, read, emit]
  have leads := lead_next_line scan _ '|' _ tail starts (fetch _) stop_rest begins outside rfl (by simp)
    (by rw [starts]; simp [Text.literal]; omega)
  rw [← open_blocks]
  exact leads

theorem lead_text (here : At scan (Text.write (h + 2) cs ++ (extra ++ (spaces n ++ tail))) column tokens (h :: indents))
    (outer : n ≤ h) : Leads scan tail n (.scalar (withBreaks cs extra) (Text.style cs) :: tokens) (h :: indents) := by
  have kept (other : Text.style cs ≠ .literal) : withBreaks cs extra = cs := by simp [withBreaks, other]
  cases Text.styled cs with
  | plain style fits present =>
    rw [Text.write, style] at here
    rw [kept (by simp [style]), style]
    exact lead_plain scan cs extra tail h n column tokens indents inside breaks begins (by simpa using here) outer
      (Text.plain_of_fits cs fits) present
  | single style fits unfed =>
    rw [Text.write, style] at here
    rw [kept (by simp [style]), style]
    exact lead_single_quoted scan cs extra tail h n column tokens indents inside breaks begins (by simpa using here)
      (Text.single_of_fits cs fits unfed)
  | double style =>
    rw [Text.write, style] at here
    rw [kept (by simp [style]), style]
    exact lead_double_quoted scan cs extra tail h n column tokens indents inside breaks begins (by simpa using here)
  | literal style fed fits =>
    have present : cs ≠ [] := by
      rintro rfl
      cases fed
    have printable : ∀ c ∈ cs, isPrintable c = true := by
      simp only [Text.fitsLiteral, Bool.and_eq_true, List.all_eq_true] at fits
      exact fits.1.1
    rw [Text.write, style] at here
    rw [style]
    exact lead_literal scan cs extra tail h n column tokens indents inside breaks begins here outer style present printable

end scalars

theorem marks_other (at' : Cursor) (c d : Char) (rest : List Char) (here : at'.rest = d :: rest) (other : d ≠ c) :
    at'.marksDocument c = false := by
  simp [Cursor.marksDocument, here, other]

inductive Brackets : Char → Char → Token → Token → Prop
  | list : Brackets '[' ']' .flowSequenceStart .flowSequenceEnd
  | record : Brackets '\x7b' '\x7d' .flowMappingStart .flowMappingEnd

theorem fetch_opening (scan : Scan) (opening closing : Char) (first last : Token) (rest : List Char)
    (brackets : Brackets opening closing first last) (here : scan.at'.rest = opening :: rest) :
    scan.fetch? opening rest = scan.fetchFlowStart? first := by
  cases brackets <;> simp [fetch?, marks_other scan.at' _ _ rest here]

theorem fetch_closing (scan : Scan) (opening closing : Char) (first last : Token) (rest : List Char)
    (brackets : Brackets opening closing first last) (here : scan.at'.rest = closing :: rest) :
    scan.fetch? closing rest = scan.fetchFlowEnd? last := by
  cases brackets <;> simp [fetch?, marks_other scan.at' _ _ rest here]

theorem settle_in_brackets (scan : Scan) (rest : List Char) (key : Option PendingKey) (here : scan.at'.rest = rest)
    (begins : Begins rest) (unkeyed : scan.key = none) (inside : scan.outerKeys = [key])
    (near : ∀ pending ∈ key, pending.line = scan.at'.line ∧ scan.at'.index ≤ pending.index + 1024) :
    scan.settle? = some scan := by
  have skipped : scan.skipGap (scan.at'.rest.length + 1) = scan := skip_gap_spaces scan 0 _ rest here begins
  have kept : refresh? scan.at' key = some key := by
    cases key with
    | none => rfl
    | some pending => exact refresh_near _ pending (near pending rfl).1 (near pending rfl).2
  have refreshed : scan.refreshKeys? = some scan := by
    rw [refreshKeys?, unkeyed, inside, List.mapM_cons, kept]
    show some { scan with key := none, outerKeys := [key] } = some scan
    rw [← unkeyed, ← inside]
  rw [settle?, skipped, refreshed]
  simp [closeBlocks, inFlow, inside]

theorem lead_brackets (scan : Scan) (opening closing : Char) (first last : Token) (extra tail : List Char)
    (n column : Nat) (tokens : List Token) (indents : List Nat) (brackets : Brackets opening closing first last)
    (inside : ∀ h ∈ indents.head?, h < column) (breaks : ∀ c ∈ extra, isPlainBreak c = true) (begins : Begins tail)
    (here : At scan (opening :: closing :: '\n' :: (extra ++ (spaces n ++ tail))) column tokens indents) :
    Leads scan tail n (last :: first :: tokens) indents := by
  obtain ⟨starts, rfl, rfl, rfl, unkeyed, outside⟩ := here
  obtain ⟨key, saved, loose⟩ := save_loose_key scan (inside_optional _ _ inside) unkeyed
  let rest := closing :: '\n' :: (extra ++ (spaces n ++ tail))
  let inner : Scan := { scan with
    at' := scan.at'.skip 1, tokens := first :: scan.tokens, key := none, outerKeys := [key], keyAllowed := true }
  have opened : scan.fetch? opening rest = some inner := by
    rw [fetch_opening scan opening closing first last rest brackets starts, fetchFlowStart?, saved]
    simp [emit, inner, outside]
  have inner_rest : inner.at'.rest = rest := Cursor.skip_rest scan.at' [opening] _ 1 starts rfl
  have settled : inner.settle? = some inner := by
    refine settle_in_brackets inner rest key inner_rest ?_ rfl rfl fun pending held => ?_
    · rintro c ⟨⟩
      cases brackets <;> decide
    · obtain ⟨_, line, index⟩ := loose pending held
      exact ⟨line, by rw [index]; exact Nat.add_le_add_left (by omega) _⟩
  let after : Scan := { scan with
    at' := inner.at'.skip 1, tokens := last :: first :: scan.tokens, key, outerKeys := [], keyAllowed := false }
  have closed : inner.fetch? closing ('\n' :: (extra ++ (spaces n ++ tail))) = some after := by
    rw [fetch_closing inner opening closing first last _ brackets inner_rest]
    simp [fetchFlowEnd?, dropKey?, emit, inner, after]
  have plain : ∀ d ∈ '\n' :: extra, isPlainBreak d = true := by
    intro d member
    rcases List.mem_cons.mp member with rfl | member
    · rfl
    · exact breaks d member
  have leads := lead_line_end inner after closing _ '\n' extra n tail inner_rest closed
    (Cursor.skip_rest inner.at' [closing] _ 1 inner_rest rfl) plain begins rfl
    (fun pending held => ⟨(loose pending held).1, Nat.le_of_eq (loose pending held).2.1⟩)
    (by rw [inner_rest]; simp [rest]; omega)
  have round := advances_round scan inner inner opening rest starts opened settled (by rw [inner_rest, starts]; simp [rest])
  exact leads_after scan inner tail n _ _ round leads

end Scan

end ResourceRoutes.Yaml
