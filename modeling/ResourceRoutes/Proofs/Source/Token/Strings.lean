import ResourceRoutes.Proofs.Source.Token.Numbers
set_option autoImplicit false

namespace ResourceRoutes.Source.Lexeme

def Takes (read : List Char → Option Nat) (text : List Char) : Prop :=
  ∀ after, read (text ++ after) = some text.length

def Shut (text : List Char) : Prop := ∃ front c, text = front ++ [c] ∧ c ∉ edges

theorem Shut.append {text : List Char} (front : List Char) (shut : Shut text) : Shut (front ++ text) := by
  obtain ⟨body, c, rfl, closing⟩ := shut
  exact ⟨front ++ body, c, (List.append_assoc ..).symm, closing⟩

theorem Shut.cons {text : List Char} (c : Char) (shut : Shut text) : Shut (c :: text) := shut.append [c]

def quotes : List Char := ['"', '\'', '#']

-- Blanks are left out, but none between two quotes: such a blank may be what a character stands for, or may keep a raw
-- string from ending there.
inductive Thinned : Char → List Char → List Char → Prop where
  | nil (before : Char) : Thinned before [] []
  | keep (before c : Char) (text left : List Char) (rest : Thinned c text left) : Thinned before (c :: text) (c :: left)
  | drop (before : Char) (text left : List Char) (rest : Thinned before text left)
      (free : before ∈ quotes → ∀ c ∈ left.head?, c ∉ quotes) : Thinned before (' ' :: text) left

theorem thinned_refl (before : Char) (text : List Char) : Thinned before text text := by
  induction text generalizing before with
  | nil => exact .nil before
  | cons c text ih => exact .keep before c text text (ih c)

theorem thinned_append (before : Char) (a b left : List Char) (thinned : Thinned before (a ++ b) left) :
    ∃ front behind last, left = front ++ behind ∧ Thinned before a front ∧ Thinned last b behind := by
  induction a generalizing before left with
  | nil => exact ⟨[], left, before, rfl, .nil before, thinned⟩
  | cons c a ih =>
    cases thinned with
    | keep _ _ _ left rest =>
      obtain ⟨front, behind, last, rfl, thinned_front, thinned_behind⟩ := ih c left rest
      exact ⟨c :: front, behind, last, rfl, .keep before c a front thinned_front, thinned_behind⟩
    | drop _ _ _ rest free =>
      obtain ⟨front, behind, last, rfl, thinned_front, thinned_behind⟩ := ih before left rest
      refine ⟨front, behind, last, rfl, .drop before a front thinned_front ?_, thinned_behind⟩
      intro quote d first
      cases front with
      | nil => cases first
      | cons e front => exact free quote d first

theorem thinned_solid (before : Char) (text left : List Char) (solid : ' ' ∉ text) (thinned : Thinned before text left) :
    left = text := by
  induction thinned with
  | nil => rfl
  | keep before c text left rest ih => rw [ih fun inside => solid (List.mem_cons_of_mem c inside)]
  | drop before text left rest free ih => exact absurd (List.mem_cons_self ..) solid

theorem thinned_solid_append (before : Char) (a b left : List Char) (solid : ' ' ∉ b)
    (thinned : Thinned before (a ++ b) left) : ∃ front, left = front ++ b ∧ Thinned before a front := by
  obtain ⟨front, behind, last, rfl, thinned_front, thinned_behind⟩ := thinned_append before a b left thinned
  rw [thinned_solid last b behind solid thinned_behind]
  exact ⟨front, rfl, thinned_front⟩

theorem thinned_cons (before c : Char) (text left : List Char) (solid : c ≠ ' ') (thinned : Thinned before (c :: text) left) :
    ∃ rest, left = c :: rest ∧ Thinned c text rest := by
  cases thinned with
  | keep _ _ _ rest thinned_rest => exact ⟨rest, rfl, thinned_rest⟩
  | drop => exact absurd rfl solid

theorem thinned_head (before : Char) (text left : List Char) (solid : ∀ c ∈ text.head?, c ≠ ' ')
    (thinned : Thinned before text left) : left.head? = text.head? := by
  cases thinned with
  | nil => rfl
  | keep => rfl
  | drop => exact absurd rfl (solid ' ' rfl)

def SolidFront (read : List Char → Option Nat) (cs : List Char) (n : Nat) : Prop :=
  ∃ text rest, cs = text ++ rest ∧ text.length = n ∧ ' ' ∉ text ∧ Takes read text

theorem hex_no_blank (c : Char) (hex : isHex c = true) : ' ' ≠ c := by
  intro same
  rw [← same] at hex
  revert hex
  decide

theorem not_mem_cons {c d : Char} {text : List Char} (other : c ≠ d) (absent : c ∉ text) : c ∉ d :: text :=
  fun inside => (List.mem_cons.mp inside).elim other absent

theorem code_point_front (nulAllowed : Bool) (digits value : Nat) (cs : List Char) (n : Nat)
    (read : codePoint? nulAllowed digits value cs = some n) : SolidFront (codePoint? nulAllowed digits value) cs n := by
  fun_induction codePoint? nulAllowed digits value cs generalizing n with
  | case2 digits value c rest hex few ih =>
    obtain ⟨m, read_rest, rfl⟩ := Option.map_eq_some_iff.mp read
    obtain ⟨text, after, rfl, rfl, solid, takes⟩ := ih m read_rest
    refine ⟨c :: text, after, rfl, rfl, not_mem_cons (hex_no_blank c hex) solid, ?_⟩
    intro others
    rw [List.cons_append, codePoint?, if_pos hex, if_pos few, takes]
    rfl
  | case5 digits value rest no_hex some_digits ih =>
    obtain ⟨m, read_rest, rfl⟩ := Option.map_eq_some_iff.mp read
    obtain ⟨text, after, rfl, rfl, solid, takes⟩ := ih m read_rest
    refine ⟨'_' :: text, after, rfl, rfl, not_mem_cons (by decide) solid, ?_⟩
    intro others
    rw [List.cons_append, codePoint?, if_neg no_hex, if_neg some_digits, if_pos rfl, takes]
    rfl
  | case6 digits value c rest no_hex some_digits no_line closing =>
    cases read
    refine ⟨[c], rest, rfl, rfl, not_mem_cons (closing.1 ▸ by decide) List.not_mem_nil, ?_⟩
    intro others
    rw [List.cons_append, codePoint?, if_neg no_hex, if_neg some_digits, if_neg no_line, if_pos closing]
    rfl
  | _ => cases read

theorem byte_escape_front (content : Content) (a b : Char) (others : List Char) (n : Nat)
    (read : escape? content ('x' :: a :: b :: others) = some n) :
    SolidFront (escape? content) ('x' :: a :: b :: others) n := by
  obtain ⟨fits, same⟩ := Option.ite_none_right_eq_some.mp read
  cases same
  have both_hex : isHex a = true ∧ isHex b = true := by
    have digit_hex (digit : a.isDigit = true) : isHex a = true := by rw [isHex, digit]; rfl
    cases content with
    | text =>
      simp only [Bool.and_eq_true] at fits
      exact ⟨digit_hex fits.1.1, fits.2⟩
    | bytes => simpa using fits
    | nulFree =>
      simp only [Bool.and_eq_true] at fits
      exact fits.1
  have solid := not_mem_cons (hex_no_blank a both_hex.1) (not_mem_cons (hex_no_blank b both_hex.2) List.not_mem_nil)
  refine ⟨['x', a, b], others, rfl, rfl, not_mem_cons (by decide) solid, ?_⟩
  intro after
  exact if_pos fits

theorem point_escape_front (content : Content) (others : List Char) (n : Nat)
    (read : escape? content ('u' :: '\x7b' :: others) = some n) :
    SolidFront (escape? content) ('u' :: '\x7b' :: others) n := by
  obtain ⟨allowed, found⟩ := Option.ite_none_left_eq_some.mp read
  obtain ⟨m, read_point, rfl⟩ := Option.map_eq_some_iff.mp found
  obtain ⟨text, rest, rfl, rfl, solid, takes⟩ := code_point_front _ _ _ others m read_point
  refine ⟨'u' :: '\x7b' :: text, rest, rfl, rfl, not_mem_cons (by decide) (not_mem_cons (by decide) solid), ?_⟩
  intro after
  change (if content = .bytes then none else (codePoint? (content == .text) 0 0 (text ++ after)).map (· + 2)) = _
  rw [if_neg allowed, takes]
  rfl

theorem escape_front (content : Content) (cs : List Char) (n : Nat) (read : escape? content cs = some n) :
    SolidFront (escape? content) cs n := by
  unfold escape? at read
  split at read
  · exact byte_escape_front content _ _ _ n read
  · exact point_escape_front content _ n read
  · rename_i others
    obtain ⟨allowed, same⟩ := Option.ite_none_left_eq_some.mp read
    cases same
    exact ⟨['0'], others, rfl, rfl, by decide, fun after => if_neg allowed⟩
  · rename_i c others no_hex no_point no_nul
    obtain ⟨lettered, same⟩ := Option.ite_none_right_eq_some.mp read
    cases same
    have letter : c ∈ ['n', 'r', 't', '\\', '\'', '"'] := by simpa using lettered
    refine ⟨[c], others, rfl, rfl, ?_, ?_⟩
    · rw [List.mem_singleton]
      intro same
      rw [← same] at letter
      revert letter
      decide
    · intro after
      simp only [List.mem_cons, List.not_mem_nil, or_false] at letter
      obtain rfl | rfl | rfl | rfl | rfl | rfl := letter <;> rfl
  · cases read

theorem escape_starts (content : Content) (escape : List Char) (takes : Takes (escape? content) escape) :
    ∃ c rest, escape = c :: rest ∧ c ≠ '\n' ∧ c ≠ '\r' := by
  have read := takes []
  rw [List.append_nil] at read
  cases escape with
  | nil => cases read
  | cons c rest =>
    refine ⟨c, rest, rfl, ?_, ?_⟩
    · rintro rfl
      cases read
    · rintro rfl
      cases read

def lineBlanks : List Char := [' ', '\t', '\n', '\r']

inductive Gap : Bool → List Char → Prop where
  | nil : Gap false []
  | blank (c : Char) (gap : List Char) (blank : c = ' ' ∨ c = '\t' ∨ c = '\n') (rest : Gap false gap) :
      Gap false (c :: gap)
  | carriage (gap : List Char) (rest : Gap true gap) : Gap false ('\r' :: gap)
  | line (gap : List Char) (rest : Gap false gap) : Gap true ('\n' :: gap)

theorem gap_front (returned : Bool) (cs : List Char) (n : Nat) (read : continuation? returned cs = some n) :
    ∃ gap rest, cs = gap ++ rest ∧ gap.length = n ∧ Gap returned gap ∧ ∃ c ∈ rest.head?, c ∉ lineBlanks := by
  fun_induction continuation? returned cs generalizing n with
  | case2 rest ih =>
    obtain ⟨m, read_rest, rfl⟩ := Option.map_eq_some_iff.mp read
    obtain ⟨gap, rest, rfl, rfl, held, ends⟩ := ih m read_rest
    exact ⟨'\n' :: gap, rest, rfl, rfl, .line gap held, ends⟩
  | case4 c rest blank ih =>
    obtain ⟨m, read_rest, rfl⟩ := Option.map_eq_some_iff.mp read
    obtain ⟨gap, rest, rfl, rfl, held, ends⟩ := ih m read_rest
    exact ⟨c :: gap, rest, rfl, rfl, .blank c gap blank held, ends⟩
  | case5 rest no_blank ih =>
    obtain ⟨m, read_rest, rfl⟩ := Option.map_eq_some_iff.mp read
    obtain ⟨gap, rest, rfl, rfl, held, ends⟩ := ih m read_rest
    exact ⟨'\r' :: gap, rest, rfl, rfl, .carriage gap held, ends⟩
  | case6 c rest no_blank no_return =>
    cases read
    refine ⟨[], c :: rest, rfl, rfl, .nil, c, rfl, ?_⟩
    simp only [lineBlanks, List.mem_cons, List.not_mem_nil, or_false]
    grind
  | _ => cases read

theorem Gap.takes {returned : Bool} {gap : List Char} (held : Gap returned gap) (rest : List Char)
    (ends : ∃ c ∈ rest.head?, c ∉ lineBlanks) : continuation? returned (gap ++ rest) = some gap.length := by
  induction held with
  | nil =>
    obtain ⟨c, first, other⟩ := ends
    cases rest with
    | nil => cases first
    | cons d rest =>
      cases first
      simp only [lineBlanks, List.mem_cons, List.not_mem_nil, or_false, not_or] at other
      obtain ⟨no_blank, no_tab, no_line, no_return⟩ := other
      rw [List.nil_append, continuation?, if_neg (by simp [no_blank, no_tab, no_line]), if_neg no_return]
      rfl
  | blank c gap blank held ih => rw [List.cons_append, continuation?, if_pos blank, ih]; rfl
  | carriage gap held ih => rw [List.cons_append, continuation?, if_neg (by decide), if_pos rfl, ih]; rfl
  | line gap held ih => rw [List.cons_append, continuation?, if_pos rfl, ih]; rfl

theorem Gap.thinned {returned : Bool} {gap : List Char} (held : Gap returned gap) (before : Char) (left : List Char)
    (thinned : Thinned before gap left) : Gap returned left := by
  induction held generalizing before left with
  | nil =>
    cases thinned
    exact .nil
  | blank c gap blank held ih =>
    cases thinned with
    | keep _ _ _ left rest => exact .blank c left blank (ih c left rest)
    | drop _ _ _ rest => exact ih before left rest
  | carriage gap held ih =>
    cases thinned with
    | keep _ _ _ left rest => exact .carriage left (ih '\r' left rest)
  | line gap held ih =>
    cases thinned with
    | keep _ _ _ left rest => exact .line left (ih '\n' left rest)

inductive QuotedBody (content : Content) : List Char → Prop where
  | nil : QuotedBody content []
  | line (body : List Char) (rest : QuotedBody content body) : QuotedBody content ('\r' :: '\n' :: body)
  | gap (returned : Bool) (gap body : List Char) (held : Gap returned gap) (ends : ∀ c ∈ body.head?, c ∉ lineBlanks)
      (rest : QuotedBody content body) : QuotedBody content ('\\' :: (if returned then '\r' else '\n') :: (gap ++ body))
  | escape (escape body : List Char) (takes : Takes (escape? content) escape) (solid : ' ' ∉ escape)
      (rest : QuotedBody content body) : QuotedBody content ('\\' :: (escape ++ body))
  | plain (c : Char) (body : List Char) (fits : allowed content c = true) (other : c ≠ '"' ∧ c ≠ '\r' ∧ c ≠ '\\')
      (rest : QuotedBody content body) : QuotedBody content (c :: body)

theorem body_end (body after : List Char) (ends : ∀ c ∈ body.head?, c ∉ lineBlanks) :
    ∃ c ∈ (body ++ '"' :: after).head?, c ∉ lineBlanks := by
  cases body with
  | nil => exact ⟨'"', rfl, by decide⟩
  | cons c body => exact ⟨c, rfl, ends c rfl⟩

theorem quoted_rest_gap (content : Content) (returned : Bool) (fuel : Nat) (gap rest : List Char)
    (read : continuation? returned (gap ++ rest) = some gap.length) :
    quotedRest? content (fuel + 1) ('\\' :: (if returned then '\r' else '\n') :: (gap ++ rest)) =
      (quotedRest? content fuel rest).map (gap.length + · + 2) := by
  have steps : quotedRest? content (fuel + 1) ('\\' :: (if returned then '\r' else '\n') :: (gap ++ rest)) =
      (continuation? returned (gap ++ rest)).bind fun n =>
        (quotedRest? content fuel ((gap ++ rest).drop n)).bind fun m => some (n + m + 2) := by
    cases returned <;> rfl
  rw [steps, read, Option.bind_some, List.drop_left, Option.map_eq_bind]
  rfl

theorem quoted_rest_escape (content : Content) (fuel : Nat) (escape rest : List Char)
    (takes : Takes (escape? content) escape) :
    quotedRest? content (fuel + 1) ('\\' :: (escape ++ rest)) =
      (quotedRest? content fuel rest).map (escape.length + · + 1) := by
  have read := takes rest
  obtain ⟨c, others, rfl, no_line, no_return⟩ := escape_starts content escape takes
  rw [List.cons_append] at read
  rw [List.cons_append, quotedRest?, read, Option.bind_eq_bind, Option.bind_some, ← List.cons_append, List.drop_left,
    Option.map_eq_bind]
  · rfl
  · intro rest same
    cases same
    exact no_line rfl
  · intro rest same
    cases same
    exact no_return rfl

theorem QuotedBody.takes {content : Content} {body : List Char} (held : QuotedBody content body) (fuel : Nat)
    (after : List Char) (enough : body.length < fuel) :
    quotedRest? content fuel (body ++ '"' :: after) = some (body.length + 1) := by
  induction fuel generalizing body with
  | zero => cases enough
  | succ fuel ih =>
    cases held with
    | nil => rfl
    | line body held =>
      have enough_left : body.length < fuel := Nat.lt_of_succ_lt (Nat.lt_of_succ_lt_succ enough)
      rw [List.cons_append, List.cons_append, quotedRest?, List.head?_cons, if_pos rfl, List.tail_cons,
        ih held enough_left]
      rfl
    | gap returned gap body held ends rest =>
      have read := held.takes (body ++ '"' :: after) (body_end body after ends)
      simp only [List.length_cons, List.length_append] at enough ⊢
      rw [List.cons_append, List.cons_append, List.append_assoc, quoted_rest_gap content returned fuel gap _ read,
        ih rest (by omega), Option.map_some]
      rfl
    | escape escape body takes solid rest =>
      simp only [List.length_cons, List.length_append] at enough ⊢
      rw [List.cons_append, List.append_assoc, quoted_rest_escape content fuel escape _ takes, ih rest (by omega),
        Option.map_some]
      rfl
    | plain c body fits other rest =>
      rw [List.cons_append, quotedRest?, if_pos fits, ih rest (Nat.lt_of_succ_lt_succ enough)]
      · rfl
      · exact other.1
      · exact other.2.1
      · exact other.2.2

def QuotedFront (content : Content) (cs : List Char) (n : Nat) : Prop :=
  ∃ body rest, cs = body ++ '"' :: rest ∧ body.length + 1 = n ∧ QuotedBody content body

theorem gap_quoted_front (content : Content) (returned : Bool) (cs : List Char) (k m : Nat)
    (read : continuation? returned cs = some k) (behind : QuotedFront content (cs.drop k) m) :
    QuotedFront content ('\\' :: (if returned then '\r' else '\n') :: cs) (k + m + 2) := by
  obtain ⟨gap, rest, rfl, rfl, held, c, first, ends⟩ := gap_front returned cs k read
  rw [List.drop_left] at behind
  obtain ⟨body, others, rfl, rfl, held_body⟩ := behind
  refine ⟨_, others, by rw [List.cons_append, List.cons_append, List.append_assoc], ?_,
    .gap returned gap body held ?_ held_body⟩
  · simp only [List.length_cons, List.length_append]
    omega
  · intro d own
    cases body with
    | nil => cases own
    | cons e body =>
      cases own
      cases first
      exact ends

theorem escape_quoted_front (content : Content) (cs : List Char) (k m : Nat) (read : escape? content cs = some k)
    (behind : QuotedFront content (cs.drop k) m) : QuotedFront content ('\\' :: cs) (k + m + 1) := by
  obtain ⟨escape, rest, rfl, rfl, solid, takes⟩ := escape_front content cs k read
  rw [List.drop_left] at behind
  obtain ⟨body, others, rfl, rfl, held⟩ := behind
  exact ⟨'\\' :: (escape ++ body), others, by simp, by simp; omega, .escape escape body takes solid held⟩

theorem quoted_rest_front (content : Content) (fuel : Nat) (cs : List Char) (n : Nat)
    (read : quotedRest? content fuel cs = some n) : QuotedFront content cs n := by
  induction fuel generalizing cs n with
  | zero => cases read
  | succ fuel ih =>
    have behind_steps (first : Option Nat) (cs : List Char) (more : Nat) (found : (do
        let n ← first
        let m ← quotedRest? content fuel (cs.drop n)
        return n + m + more : Option Nat) = some n) :
        ∃ k m, first = some k ∧ QuotedFront content (cs.drop k) m ∧ k + m + more = n := by
      obtain ⟨k, read_first, found⟩ := Option.bind_eq_some_iff.mp found
      obtain ⟨m, read_rest, same⟩ := Option.bind_eq_some_iff.mp found
      exact ⟨k, m, read_first, ih _ m read_rest, Option.some.inj same⟩
    unfold quotedRest? at read
    split at read
    · cases read
    · rename_i rest
      cases read
      exact ⟨[], rest, rfl, rfl, .nil⟩
    · rename_i rest
      obtain ⟨followed, found⟩ := Option.ite_none_right_eq_some.mp read
      obtain ⟨m, read_rest, rfl⟩ := Option.map_eq_some_iff.mp found
      obtain ⟨rest, rfl⟩ := List.head?_eq_some_iff.mp followed
      obtain ⟨body, others, same, rfl, held⟩ := ih rest m read_rest
      exact ⟨'\r' :: '\n' :: body, others, by rw [same]; rfl, rfl, .line body held⟩
    -- a backslash, which ends the line or begins an escape
    · split at read
      · obtain ⟨k, m, read_gap, behind, rfl⟩ := behind_steps _ _ 2 read
        exact gap_quoted_front content false _ k m read_gap behind
      · obtain ⟨k, m, read_gap, behind, rfl⟩ := behind_steps _ _ 2 read
        exact gap_quoted_front content true _ k m read_gap behind
      · obtain ⟨k, m, read_escape, behind, rfl⟩ := behind_steps _ _ 1 read
        exact escape_quoted_front content _ k m read_escape behind
    · rename_i c rest no_quote no_return no_mark
      obtain ⟨fits, found⟩ := Option.ite_none_right_eq_some.mp read
      obtain ⟨m, read_rest, rfl⟩ := Option.map_eq_some_iff.mp found
      obtain ⟨body, others, rfl, rfl, held⟩ := ih rest m read_rest
      exact ⟨c :: body, others, rfl, rfl, .plain c body fits ⟨no_quote, no_return, no_mark⟩ held⟩

theorem QuotedBody.thinned {content : Content} {body : List Char} (held : QuotedBody content body) (before : Char)
    (left : List Char) (thinned : Thinned before body left) : QuotedBody content left := by
  induction held generalizing before left with
  | nil =>
    cases thinned
    exact .nil
  | line body held ih =>
    obtain ⟨left, rfl, thinned_line⟩ := thinned_cons before '\r' _ left (by decide) thinned
    obtain ⟨left, rfl, thinned_body⟩ := thinned_cons '\r' '\n' _ left (by decide) thinned_line
    exact .line left (ih '\n' left thinned_body)
  | gap returned gap body held ends rest ih =>
    obtain ⟨left, rfl, thinned_line⟩ := thinned_cons before '\\' _ left (by decide) thinned
    obtain ⟨left, rfl, thinned_rest⟩ := thinned_cons '\\' _ _ left (by cases returned <;> decide) thinned_line
    obtain ⟨front, behind, last, rfl, thinned_gap, thinned_body⟩ := thinned_append _ gap body left thinned_rest
    refine .gap returned front behind (held.thinned _ front thinned_gap) ?_ (ih last behind thinned_body)
    rw [thinned_head last body behind _ thinned_body]
    · exact ends
    · intro c first blank
      exact ends c first (blank ▸ by decide)
  | escape escape body takes solid rest ih =>
    obtain ⟨left, rfl, thinned_rest⟩ := thinned_cons before '\\' _ left (by decide) thinned
    obtain ⟨front, behind, last, rfl, thinned_escape, thinned_body⟩ := thinned_append _ escape body left thinned_rest
    rw [thinned_solid _ escape front solid thinned_escape]
    exact .escape escape behind takes solid (ih last behind thinned_body)
  | plain c body fits other rest ih =>
    cases thinned with
    | keep _ _ _ left thinned_rest => exact .plain c left fits other (ih c left thinned_rest)
    | drop _ _ _ thinned_rest => exact ih before left thinned_rest

inductive RawBody (content : Content) (marks : List Char) : List Char → Prop where
  | nil : RawBody content marks []
  | line (body : List Char) (rest : RawBody content marks body) : RawBody content marks ('\r' :: '\n' :: body)
  | char (c : Char) (body : List Char) (fits : allowed content c = true) (no_return : c ≠ '\r')
      (going : c = '"' → ¬ marks <+: body) (rest : RawBody content marks body) : RawBody content marks (c :: body)

theorem marks_before_quote (marks body after : List Char) (hashes : ∀ c ∈ marks, c = '#') :
    marks <+: body ++ '"' :: after ↔ marks <+: body := by
  induction marks generalizing body with
  | nil => simp
  | cons c marks ih =>
    have hash : c = '#' := hashes c (List.mem_cons_self ..)
    cases body with
    | nil =>
      constructor
      · intro marked
        have same := (List.cons_prefix_cons.mp marked).1
        rw [hash] at same
        cases same
      · intro marked
        cases List.prefix_nil.mp marked
    | cons d body =>
      rw [List.cons_append, List.cons_prefix_cons, List.cons_prefix_cons,
        ih body fun e member => hashes e (List.mem_cons_of_mem c member)]

theorem RawBody.takes {content : Content} {marks body : List Char} (hashes : ∀ c ∈ marks, c = '#')
    (held : RawBody content marks body) (after : List Char) :
    rawRest? content marks (body ++ '"' :: (marks ++ after)) = some (body.length + 1 + marks.length) := by
  induction held with
  | nil =>
    rw [List.nil_append, rawRest?, if_pos ⟨rfl, List.isPrefixOf_iff_prefix.mpr (List.prefix_append ..)⟩]
    · rw [List.length_nil, Nat.zero_add]
    · nofun
    · nofun
  | line body held ih =>
    rw [List.cons_append, List.cons_append, rawRest?, ih]
    simp only [Option.map_some, List.length_cons]
    congr 1
    omega
  | char c body fits no_return going held ih =>
    have goes_on : ¬ (c = '"' ∧ marks.isPrefixOf (body ++ '"' :: (marks ++ after)) = true) := by
      rintro ⟨quote, marked⟩
      exact going quote ((marks_before_quote marks body _ hashes).mp (List.isPrefixOf_iff_prefix.mp marked))
    rw [List.cons_append, rawRest?, if_neg goes_on, if_pos fits, ih]
    · simp only [Option.map_some, List.length_cons]
      congr 1
      omega
    · intro rest same
      exact absurd same no_return
    · exact no_return

theorem raw_rest_front (content : Content) (marks : List Char) (hashes : ∀ c ∈ marks, c = '#') (cs : List Char) (n : Nat)
    (read : rawRest? content marks cs = some n) :
    ∃ body rest, cs = body ++ '"' :: (marks ++ rest) ∧ body.length + 1 + marks.length = n ∧ RawBody content marks body := by
  fun_induction rawRest? content marks cs generalizing n with
  | case2 rest ih =>
    obtain ⟨m, read_rest, rfl⟩ := Option.map_eq_some_iff.mp read
    obtain ⟨body, others, rfl, rfl, held⟩ := ih m read_rest
    exact ⟨'\r' :: '\n' :: body, others, rfl, by simp only [List.length_cons]; omega, .line body held⟩
  | case4 c rest no_line no_return closing =>
    cases read
    obtain ⟨rfl, marked⟩ := closing
    obtain ⟨others, rfl⟩ := List.isPrefixOf_iff_prefix.mp marked
    exact ⟨[], others, rfl, by rw [List.length_nil, Nat.zero_add], .nil⟩
  | case5 c rest no_line no_return going fits ih =>
    obtain ⟨m, read_rest, rfl⟩ := Option.map_eq_some_iff.mp read
    obtain ⟨body, others, rfl, rfl, held⟩ := ih m read_rest
    refine ⟨c :: body, others, rfl, by simp only [List.length_cons]; omega, .char c body fits no_return ?_ held⟩
    intro quote marked
    exact going ⟨quote, List.isPrefixOf_iff_prefix.mpr ((marks_before_quote marks body _ hashes).mpr marked)⟩
  | _ => cases read

theorem thinned_marks (before : Char) (marks body left : List Char) (hashes : ∀ c ∈ marks, c = '#')
    (quote : before ∈ quotes) (thinned : Thinned before body left) (marked : marks <+: left) : marks <+: body := by
  induction marks generalizing before body left with
  | nil => exact List.nil_prefix
  | cons c marks ih =>
    have hash : c ∈ quotes := hashes c (List.mem_cons_self ..) ▸ by decide
    cases thinned with
    | nil => exact marked
    | keep _ d text left rest =>
      obtain ⟨rfl, marked_rest⟩ := List.cons_prefix_cons.mp marked
      exact List.cons_prefix_cons.mpr
        ⟨rfl, ih c text left (fun e member => hashes e (List.mem_cons_of_mem c member)) hash rest marked_rest⟩
    | drop _ _ _ rest free =>
      obtain ⟨others, rfl⟩ := marked
      exact absurd hash (free quote c rfl)

theorem RawBody.thinned {content : Content} {marks body : List Char} (hashes : ∀ c ∈ marks, c = '#')
    (held : RawBody content marks body) (before : Char) (left : List Char) (thinned : Thinned before body left) :
    RawBody content marks left := by
  induction held generalizing before left with
  | nil =>
    cases thinned
    exact .nil
  | line body held ih =>
    obtain ⟨left, rfl, thinned_line⟩ := thinned_cons before '\r' _ left (by decide) thinned
    obtain ⟨left, rfl, thinned_body⟩ := thinned_cons '\r' '\n' _ left (by decide) thinned_line
    exact .line left (ih '\n' left thinned_body)
  | char c body fits no_return going held ih =>
    cases thinned with
    | keep _ _ _ left rest =>
      refine .char c left fits no_return ?_ (ih c left rest)
      intro quote marked
      exact going quote (thinned_marks c marks body left hashes (quote ▸ by decide) rest marked)
    | drop _ _ _ rest => exact ih before left rest

inductive StringText : List Char → Prop where
  | quoted (lead : List Char) (content : Content) (body : List Char)
      (led : (lead, content) ∈ [([], Content.text), (['b'], .bytes), (['c'], .nulFree)])
      (held : QuotedBody content body) : StringText (lead ++ '"' :: (body ++ ['"']))
  | raw (lead : List Char) (content : Content) (marks body : List Char)
      (led : (lead, content) ∈ [(['r'], Content.text), (['b', 'r'], .bytes), (['c', 'r'], .nulFree)])
      (hashes : ∀ c ∈ marks, c = '#') (few : marks.length ≤ 255) (held : RawBody content marks body) :
      StringText (lead ++ (marks ++ '"' :: (body ++ '"' :: marks)))

theorem quoted_takes (content : Content) (body : List Char) (held : QuotedBody content body) :
    Takes (quoted? content) ('"' :: (body ++ ['"'])) := by
  intro after
  have enough : body.length < (body ++ '"' :: after).length + 1 := by
    rw [List.length_append]
    omega
  rw [List.cons_append, List.append_assoc, List.singleton_append, quoted?, held.takes _ after enough, List.length_cons,
    List.length_append]
  rfl

theorem raw_takes (content : Content) (marks body : List Char) (hashes : ∀ c ∈ marks, c = '#') (few : marks.length ≤ 255)
    (held : RawBody content marks body) : Takes (raw? content) (marks ++ '"' :: (body ++ '"' :: marks)) := by
  intro after
  have again : (marks ++ '"' :: (body ++ '"' :: (marks ++ after))).takeWhile (· == '#') = marks := by
    rw [List.takeWhile_append_of_pos (by simpa using hashes), List.takeWhile_cons_of_neg (by decide), List.append_nil]
  rw [List.append_assoc, List.cons_append, List.append_assoc, List.cons_append, raw?, again, List.drop_left]
  simp only [if_pos few, held.takes hashes after, Option.map_some, List.length_append, List.length_cons]
  congr 1
  omega

theorem StringText.takes {text : List Char} (held : StringText text) : Takes string? text := by
  intro after
  cases held with
  | quoted lead content body led held =>
    have read := quoted_takes content body held after
    simp only [List.mem_cons, List.not_mem_nil, or_false, Prod.mk.injEq] at led
    obtain ⟨rfl, rfl⟩ | ⟨rfl, rfl⟩ | ⟨rfl, rfl⟩ := led
    · exact read
    · exact congrArg (Option.map (· + 1)) read
    · exact congrArg (Option.map (· + 1)) read
  | raw lead content marks body led hashes few held =>
    have read := raw_takes content marks body hashes few held after
    simp only [List.mem_cons, List.not_mem_nil, or_false, Prod.mk.injEq] at led
    obtain ⟨rfl, rfl⟩ | ⟨rfl, rfl⟩ | ⟨rfl, rfl⟩ := led
    · rw [List.append_assoc, List.singleton_append, string?, read]
      rfl
    · rw [List.append_assoc, List.cons_append, List.singleton_append, string?, read]
      rfl
    · rw [List.append_assoc, List.cons_append, List.singleton_append, string?, read]
      rfl

theorem StringText.shut {text : List Char} (held : StringText text) : Shut text := by
  have closing : Shut ['"'] := ⟨[], '"', rfl, by decide⟩
  cases held with
  | quoted lead content body led held => exact ((closing.append body).cons '"').append lead
  | raw lead content marks body led hashes few held =>
    have marked : Shut ('"' :: marks) := by
      cases marks.eq_nil_or_concat with
      | inl none_left =>
        rw [none_left]
        exact closing
      | inr found =>
        obtain ⟨front, c, rfl⟩ := found
        refine ⟨'"' :: front, c, by rw [List.concat_eq_append]; rfl, ?_⟩
        rw [hashes c (by simp)]
        decide
    exact (((marked.append body).cons '"').append marks).append lead

theorem quoted_front (content : Content) (cs : List Char) (n : Nat) (read : quoted? content cs = some n) :
    ∃ body rest, cs = '"' :: (body ++ ['"']) ++ rest ∧ ('"' :: (body ++ ['"'])).length = n ∧ QuotedBody content body := by
  unfold quoted? at read
  split at read
  · obtain ⟨m, read_rest, rfl⟩ := Option.map_eq_some_iff.mp read
    obtain ⟨body, others, rfl, rfl, held⟩ := quoted_rest_front content _ _ m read_rest
    exact ⟨body, others, by simp, by simp, held⟩
  · cases read

theorem raw_front (content : Content) (cs : List Char) (n : Nat) (read : raw? content cs = some n) :
    ∃ marks body rest, cs = marks ++ '"' :: (body ++ '"' :: marks) ++ rest ∧
      (marks ++ '"' :: (body ++ '"' :: marks)).length = n ∧ (∀ c ∈ marks, c = '#') ∧ marks.length ≤ 255 ∧
      RawBody content marks body := by
  unfold raw? at read
  dsimp only at read
  have hashes : ∀ c ∈ cs.takeWhile (· == '#'), c = '#' := by
    intro c member
    simpa using List.mem_takeWhile_imp member
  have front := List.prefix_iff_eq_append.mp (List.takeWhile_prefix (l := cs) (· == '#'))
  generalize cs.takeWhile (· == '#') = marks at *
  split at read
  · rename_i rest opened
    obtain ⟨few, found⟩ := Option.ite_none_right_eq_some.mp read
    obtain ⟨m, read_rest, rfl⟩ := Option.map_eq_some_iff.mp found
    obtain ⟨body, others, rfl, rfl, held⟩ := raw_rest_front content marks hashes rest m read_rest
    refine ⟨marks, body, others, by rw [← front, opened]; simp, ?_, hashes, few, held⟩
    simp only [List.length_append, List.length_cons]
    omega
  · cases read

theorem string_front (cs : List Char) (n : Nat) (read : string? cs = some n) :
    ∃ text rest, cs = text ++ rest ∧ text.length = n ∧ StringText text := by
  have of_quoted (lead : List Char) (content : Content) (cs : List Char) (n : Nat)
      (led : (lead, content) ∈ [([], Content.text), (['b'], .bytes), (['c'], .nulFree)])
      (read : (quoted? content cs).map (· + lead.length) = some n) :
      ∃ text rest, lead ++ cs = text ++ rest ∧ text.length = n ∧ StringText text := by
    obtain ⟨m, read_rest, rfl⟩ := Option.map_eq_some_iff.mp read
    obtain ⟨body, rest, rfl, rfl, held⟩ := quoted_front content cs m read_rest
    refine ⟨_, rest, (List.append_assoc ..).symm, ?_, .quoted lead content body led held⟩
    rw [List.length_append, Nat.add_comm]
  have of_raw (lead : List Char) (content : Content) (cs : List Char) (n : Nat)
      (led : (lead, content) ∈ [(['r'], Content.text), (['b', 'r'], .bytes), (['c', 'r'], .nulFree)])
      (read : (raw? content cs).map (· + lead.length) = some n) :
      ∃ text rest, lead ++ cs = text ++ rest ∧ text.length = n ∧ StringText text := by
    obtain ⟨m, read_rest, rfl⟩ := Option.map_eq_some_iff.mp read
    obtain ⟨marks, body, rest, rfl, rfl, hashes, few, held⟩ := raw_front content cs m read_rest
    refine ⟨_, rest, (List.append_assoc ..).symm, ?_, .raw lead content marks body led hashes few held⟩
    rw [List.length_append, Nat.add_comm]
  unfold string? at read
  split at read
  · exact of_raw ['b', 'r'] .bytes _ n (by simp) read
  · exact of_raw ['c', 'r'] .nulFree _ n (by simp) read
  · exact of_quoted ['b'] .bytes _ n (by simp) read
  · exact of_quoted ['c'] .nulFree _ n (by simp) read
  · exact of_raw ['r'] .text _ n (by simp) read
  · exact of_quoted [] .text cs n (by simp) (by simpa using read)

theorem StringText.thinned {text : List Char} (held : StringText text) (before : Char) (left : List Char)
    (thinned : Thinned before text left) : StringText left := by
  cases held with
  | quoted lead content body led held =>
    have solid : ' ' ∉ lead := by
      simp only [List.mem_cons, List.not_mem_nil, or_false, Prod.mk.injEq] at led
      obtain ⟨rfl, -⟩ | ⟨rfl, -⟩ | ⟨rfl, -⟩ := led <;> decide
    obtain ⟨front, behind, last, rfl, thinned_lead, thinned_text⟩ := thinned_append before lead _ left thinned
    rw [thinned_solid before lead front solid thinned_lead]
    obtain ⟨rest, rfl, thinned_rest⟩ := thinned_cons last '"' _ behind (by decide) thinned_text
    obtain ⟨left, rfl, thinned_body⟩ := thinned_solid_append '"' body ['"'] rest (by decide) thinned_rest
    exact .quoted lead content left led (held.thinned '"' left thinned_body)
  | raw lead content marks body led hashes few held =>
    have solid : ' ' ∉ lead := by
      simp only [List.mem_cons, List.not_mem_nil, or_false, Prod.mk.injEq] at led
      obtain ⟨rfl, -⟩ | ⟨rfl, -⟩ | ⟨rfl, -⟩ := led <;> decide
    have solid_marks : ' ' ∉ marks := by
      intro inside
      have hash := hashes ' ' inside
      revert hash
      decide
    obtain ⟨front, behind, last, rfl, thinned_lead, thinned_text⟩ := thinned_append before lead _ left thinned
    rw [thinned_solid before lead front solid thinned_lead]
    obtain ⟨front, behind, last, rfl, thinned_marks, thinned_quoted⟩ := thinned_append last marks _ behind thinned_text
    rw [thinned_solid _ marks front solid_marks thinned_marks]
    obtain ⟨rest, rfl, thinned_rest⟩ := thinned_cons last '"' _ behind (by decide) thinned_quoted
    obtain ⟨left, rfl, thinned_body⟩ :=
      thinned_solid_append '"' body ('"' :: marks) rest (not_mem_cons (by decide) solid_marks) thinned_rest
    exact .raw lead content marks left led hashes few (held.thinned hashes '"' left thinned_body)

inductive TickedBody (content : Content) : List Char → Prop where
  | escape (escape : List Char) (takes : Takes (escape? content) escape) (solid : ' ' ∉ escape) :
      TickedBody content ('\\' :: escape)
  | plain (c : Char) (fits : allowed content c = true) (other : c ≠ '\\') : TickedBody content [c]

inductive CharacterText : List Char → Prop where
  | ticked (lead : List Char) (content : Content) (body : List Char)
      (led : (lead, content) ∈ [([], Content.text), (['b'], .bytes)]) (held : TickedBody content body) :
      CharacterText (lead ++ '\'' :: (body ++ ['\'']))

theorem ticked_front (content : Content) (cs : List Char) (n : Nat) (read : ticked? content cs = some n) :
    ∃ body rest, cs = '\'' :: (body ++ ['\'']) ++ rest ∧ ('\'' :: (body ++ ['\''])).length = n ∧
      TickedBody content body := by
  have closed (body rest : List Char) (closing : (body ++ rest)[body.length]? = some '\'') :
      ∃ others, rest = '\'' :: others := by
    rw [List.getElem?_append_right (Nat.le_refl _), Nat.sub_self] at closing
    cases rest with
    | nil => cases closing
    | cons c others =>
      cases closing
      exact ⟨others, rfl⟩
  unfold ticked? at read
  dsimp only at read
  split at read
  · rename_i k inner
    obtain ⟨closing, same⟩ := Option.ite_none_right_eq_some.mp read
    cases same
    split at inner
    · rename_i rest
      obtain ⟨m, read_escape, rfl⟩ := Option.map_eq_some_iff.mp inner
      obtain ⟨escape, others, rfl, rfl, solid, takes⟩ := escape_front content rest m read_escape
      obtain ⟨others, rfl⟩ := closed ('\'' :: '\\' :: escape) others closing
      exact ⟨'\\' :: escape, others, by simp, by simp, .escape escape takes solid⟩
    · rename_i c rest no_escape
      obtain ⟨fits, same⟩ := Option.ite_none_right_eq_some.mp inner
      cases same
      obtain ⟨others, rfl⟩ := closed ['\'', c] rest closing
      exact ⟨[c], others, rfl, rfl, .plain c fits no_escape⟩
    · cases inner
  · cases read

theorem ticked_takes (content : Content) (body : List Char) (held : TickedBody content body) :
    Takes (ticked? content) ('\'' :: (body ++ ['\''])) := by
  intro after
  cases held with
  | escape escape takes solid =>
    have again : ('\'' :: '\\' :: (escape ++ ('\'' :: after)))[escape.length + 1 + 1]? = some '\'' := by simp
    rw [List.cons_append, List.append_assoc, List.cons_append, List.singleton_append, ticked?, takes]
    simp only [Option.map_some, again, if_true]
    simp
  | plain c fits other =>
    rw [List.cons_append, List.append_assoc, List.singleton_append, List.singleton_append, ticked?]
    · simp only [if_pos fits]
      rfl
    · exact other

theorem character_front (cs : List Char) (n : Nat) (read : character? cs = some n) :
    ∃ text rest, cs = text ++ rest ∧ text.length = n ∧ CharacterText text := by
  unfold character? at read
  split at read
  · obtain ⟨m, read_rest, rfl⟩ := Option.map_eq_some_iff.mp read
    obtain ⟨body, rest, rfl, rfl, held⟩ := ticked_front _ _ m read_rest
    exact ⟨_, rest, by simp, by simp, .ticked ['b'] .bytes body (by simp) held⟩
  · obtain ⟨body, rest, rfl, rfl, held⟩ := ticked_front _ _ n read
    exact ⟨_, rest, rfl, rfl, .ticked [] .text body (by simp) held⟩

theorem CharacterText.takes {text : List Char} (held : CharacterText text) : Takes character? text := by
  intro after
  cases held with
  | ticked lead content body led held =>
    have read := ticked_takes content body held after
    simp only [List.mem_cons, List.not_mem_nil, or_false, Prod.mk.injEq] at led
    obtain ⟨rfl, rfl⟩ | ⟨rfl, rfl⟩ := led
    · exact read
    · exact congrArg (Option.map (· + 1)) read

theorem CharacterText.no_string {text : List Char} (held : CharacterText text) (after : List Char) :
    string? (text ++ after) = none := by
  cases held with
  | ticked lead content body led held =>
    simp only [List.mem_cons, List.not_mem_nil, or_false, Prod.mk.injEq] at led
    obtain ⟨rfl, -⟩ | ⟨rfl, -⟩ := led <;> rfl

theorem CharacterText.shut {text : List Char} (held : CharacterText text) : Shut text := by
  have closing : Shut ['\''] := ⟨[], '\'', rfl, by decide⟩
  cases held with
  | ticked lead content body led held => exact ((closing.append body).cons '\'').append lead

theorem CharacterText.thinned {text : List Char} (held : CharacterText text) (before : Char) (left : List Char)
    (thinned : Thinned before text left) : left = text := by
  cases held with
  | ticked lead content body led held =>
    have solid : ' ' ∉ lead := by
      simp only [List.mem_cons, List.not_mem_nil, or_false, Prod.mk.injEq] at led
      obtain ⟨rfl, -⟩ | ⟨rfl, -⟩ := led <;> decide
    obtain ⟨front, behind, last, rfl, thinned_lead, thinned_text⟩ := thinned_append before lead _ left thinned
    rw [thinned_solid before lead front solid thinned_lead]
    obtain ⟨rest, rfl, thinned_rest⟩ := thinned_cons last '\'' _ behind (by decide) thinned_text
    cases held with
    | escape escape takes no_blank =>
      have solid_rest : ' ' ∉ '\\' :: escape ++ ['\''] := by
        rw [List.mem_append, not_or]
        exact ⟨not_mem_cons (by decide) no_blank, by decide⟩
      rw [thinned_solid '\'' _ rest solid_rest thinned_rest]
    | plain c fits other =>
      cases thinned_rest with
      | keep _ _ _ others closed => rw [thinned_solid c ['\''] others (by decide) closed]; rfl
      | drop _ _ _ closed free =>
        rw [thinned_solid '\'' ['\''] rest (by decide) closed] at free
        exact absurd (by decide) (free (by decide) '\'' rfl)

end ResourceRoutes.Source.Lexeme
