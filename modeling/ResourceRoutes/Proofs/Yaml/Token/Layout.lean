import ResourceRoutes.Proofs.Yaml.Cursor
import ResourceRoutes.Yaml.Token.Scan
set_option autoImplicit false

/- One round of the scanner. `Advances` puts rounds together without fuel, as each takes a character at least. -/
namespace ResourceRoutes.Yaml

open Yaml.Text (spaces)

namespace Scan

def settle? (scan : Scan) : Option Scan := do
  let scan ← (scan.skipGap (scan.at'.rest.length + 1)).refreshKeys?
  return scan.closeBlocks scan.at'.column

def proceed? (fuel : Nat) (scan : Scan) : Option (List Token) :=
  match scan.at'.rest with
  | [] => do
    let scan ← scan.closeAllBlocks.dropKey?
    return scan.tokens.reverse
  | c :: rest => do run? fuel (← scan.fetch? c rest)

theorem run_succ (fuel : Nat) (scan : Scan) : run? (fuel + 1) scan = scan.settle? >>= proceed? fuel := by
  rw [run?, settle?]
  cases (scan.skipGap (scan.at'.rest.length + 1)).refreshKeys? with
  | none => rfl
  | some settled => rfl

inductive Advances : Scan → Scan → Prop
  | here (scan : Scan) : Advances scan scan
  | round (scan fetched next stop : Scan) (c : Char) (rest : List Char) (begins : scan.at'.rest = c :: rest)
      (fetch : scan.fetch? c rest = some fetched) (settle : fetched.settle? = some next)
      (shorter : next.at'.rest.length < scan.at'.rest.length) (others : Advances next stop) : Advances scan stop

theorem advances_trans (first second third : Scan) (one : Advances first second) (two : Advances second third) :
    Advances first third := by
  induction one with
  | here => exact two
  | round scan fetched next _ c rest begins fetch settle shorter _ ih =>
    exact .round scan fetched next third c rest begins fetch settle shorter (ih two)

theorem advances_proceed (scan stop : Scan) (advances : Advances scan stop) (fuel : Nat)
    (enough : scan.at'.rest.length ≤ fuel) :
    ∃ left, scan.proceed? fuel = stop.proceed? left ∧ stop.at'.rest.length ≤ left := by
  induction advances generalizing fuel with
  | here => exact ⟨fuel, rfl, enough⟩
  | round scan fetched next stop c rest begins fetch settle shorter _ ih =>
    obtain ⟨fuel, rfl⟩ : ∃ more, fuel = more + 1 := ⟨fuel - 1, by omega⟩
    obtain ⟨left, proceeds, some⟩ := ih fuel (by omega)
    refine ⟨left, ?_, some⟩
    rw [← proceeds, proceed?, begins]
    simp only [fetch, Option.bind_eq_bind, Option.bind_some, run_succ, settle]

def Begins (cs : List Char) : Prop :=
  ∀ c ∈ cs.head?, isBlank c = false ∧ isBreak c = false ∧ c ≠ '#' ∧ c ≠ '\ufeff'

theorem begins_settled (cs : List Char) (begins : Begins cs) : Settled cs :=
  fun c first => ⟨(begins c first).1, (begins c first).2.1⟩

theorem skip_gap_spaces (scan : Scan) (n fuel : Nat) (tail : List Char) (here : scan.at'.rest = spaces n ++ tail)
    (begins : Begins tail) : scan.skipGap (fuel + 1) = { scan with at' := scan.at'.skip n } := by
  have unmarked : scan.at'.rest.head? ≠ some '\ufeff' := by
    rw [here]
    cases n with
    | zero =>
      intro first
      exact (begins '\ufeff' first).2.2.2 rfl
    | succ n => simp [spaces_succ]
  have taken : scan.at'.rest.takeWhile (fun c => c == ' ' || ((scan.inFlow || !scan.keyAllowed) && c == '\t')) =
      spaces n := by
    rw [here]
    refine take_spaces _ n tail rfl fun c first => ?_
    have blank := (begins c first).1
    simp only [isBlank, Bool.or_eq_false_iff] at blank
    simp [blank]
  have there := Cursor.skip_rest scan.at' (spaces n) tail n here (spaces_length n).symm
  have uncommented : tail.head? ≠ some '#' := fun first => (begins '#' first).2.2.1 rfl
  have unbroken : tail.head?.any isBreak = false := by
    cases first : tail.head? with
    | none => rfl
    | some c => simpa using (begins c first).2.1
  simp [skipGap, unmarked, Cursor.skipWhile, Cursor.span, taken, spaces_length, there, uncommented, unbroken]

theorem skip_gap_break (scan : Scan) (fuel : Nat) (b : Char) (rest : List Char) (here : scan.at'.rest = b :: rest)
    (breaks : isPlainBreak b = true) (outside : scan.outerKeys = []) :
    scan.skipGap (fuel + 1) = skipGap fuel { scan with at' := scan.at'.nextLine rest 1, keyAllowed := true } := by
  have broken := plain_break_breaks b breaks
  have blank := break_not_blank b broken
  have other : b ≠ '\ufeff' ∧ b ≠ '#' := by
    constructor
    · rintro rfl
      cases broken
    · rintro rfl
      cases broken
  simp only [isBlank, Bool.or_eq_false_iff, beq_eq_false_iff_ne] at blank
  have stay (p : Char → Bool) (stops : p b = false) : scan.at'.skipWhile p = scan.at' := by
    simp [Cursor.skipWhile, Cursor.span, here, stops, Cursor.skip_zero]
  have crossed := Cursor.read_break scan.at' b rest here breaks
  simp [skipGap, stay, here, other, blank, broken, Cursor.skipBreak, crossed, inFlow, outside]

theorem skip_gap_lines (scan : Scan) (b : Char) (breaks : List Char) (n fuel : Nat) (tail : List Char)
    (here : scan.at'.rest = b :: breaks ++ (spaces n ++ tail)) (plain : ∀ c ∈ b :: breaks, isPlainBreak c = true)
    (begins : Begins tail) (outside : scan.outerKeys = []) (enough : breaks.length + 2 ≤ fuel) :
    ∃ next, scan.skipGap fuel = { scan with at' := next, keyAllowed := true } ∧ next.rest = tail ∧
      next.column = n ∧ scan.at'.line < next.line := by
  induction breaks generalizing scan b fuel with
  | nil =>
    obtain ⟨fuel, rfl⟩ : ∃ more, fuel = more + 2 := ⟨fuel - 2, by simp at enough; omega⟩
    let line := scan.at'.nextLine (spaces n ++ tail) 1
    refine ⟨line.skip n, ?_, Cursor.skip_rest line _ _ n rfl (spaces_length n).symm, Nat.zero_add n, Nat.lt_succ_self _⟩
    rw [skip_gap_break scan (fuel + 1) b (spaces n ++ tail) here (plain b (List.mem_cons_self ..)) outside,
      skip_gap_spaces _ n fuel tail rfl begins]
  | cons c breaks ih =>
    obtain ⟨fuel, rfl⟩ : ∃ more, fuel = more + 1 := ⟨fuel - 1, by simp at enough; omega⟩
    let line := scan.at'.nextLine (c :: breaks ++ (spaces n ++ tail)) 1
    obtain ⟨next, skipped, rest, column, passed⟩ := ih { scan with at' := line, keyAllowed := true } c fuel rfl
      (fun d member => plain d (List.mem_cons_of_mem _ member)) outside (by simp at enough; omega)
    refine ⟨next, ?_, rest, column, Nat.lt_trans (Nat.lt_succ_self _) passed⟩
    rw [skip_gap_break scan fuel b (c :: breaks ++ (spaces n ++ tail)) here (plain b (List.mem_cons_self ..)) outside,
      skipped]

def closedTokens (column : Nat) (tokens : List Token) (indents : List Nat) : List Token :=
  List.replicate (indents.takeWhile (column < ·)).length .blockEnd ++ tokens

def closedIndents (column : Nat) (indents : List Nat) : List Nat :=
  indents.drop (indents.takeWhile (column < ·)).length

theorem closed_inner (column h : Nat) (tokens : List Token) (indents : List Nat) (inner : column < h) :
    closedTokens column tokens (h :: indents) = closedTokens column (.blockEnd :: tokens) indents ∧
      closedIndents column (h :: indents) = closedIndents column indents := by
  constructor
  · simp [closedTokens, inner, List.replicate_succ']
  · simp [closedIndents, inner]

theorem closed_outer (column : Nat) (tokens : List Token) (indents : List Nat)
    (outer : ∀ h ∈ indents.head?, h ≤ column) :
    closedTokens column tokens indents = tokens ∧ closedIndents column indents = indents := by
  cases indents with
  | nil => exact ⟨rfl, rfl⟩
  | cons h indents =>
    have open_block := outer h rfl
    simp [closedTokens, closedIndents, open_block]

theorem refresh_late (at' : Cursor) (key : Option PendingKey)
    (late : ∀ pending ∈ key, pending.required = false ∧ pending.line < at'.line) : refresh? at' key = some none := by
  cases key with
  | none => rfl
  | some pending =>
    obtain ⟨optional, earlier⟩ := late pending rfl
    simp [refresh?, optional, earlier]

theorem refresh_near (at' : Cursor) (pending : PendingKey) (line : pending.line = at'.line)
    (near : at'.index ≤ pending.index + 1024) : refresh? at' (some pending) = some (some pending) := by
  have kept : ¬ (pending.line < at'.line ∨ pending.index + 1024 < at'.index) := by omega
  simp [refresh?, kept]

theorem settle_skipped (scan : Scan) (next : Cursor) (allowed : Bool) (key : Option PendingKey)
    (skipped : scan.skipGap (scan.at'.rest.length + 1) = { scan with at' := next, keyAllowed := allowed })
    (outside : scan.outerKeys = []) (refreshed : refresh? next scan.key = some key) :
    scan.settle? = some { scan with
      at' := next
      keyAllowed := allowed
      key
      tokens := closedTokens next.column scan.tokens scan.indents
      indents := closedIndents next.column scan.indents } := by
  rw [settle?, skipped]
  simp [refreshKeys?, refreshed, outside, closeBlocks, inFlow, closedTokens, closedIndents]

structure At (scan : Scan) (rest : List Char) (column : Nat) (tokens : List Token) (indents : List Nat) : Prop where
  rest_eq : scan.at'.rest = rest
  column_eq : scan.at'.column = column
  tokens_eq : scan.tokens = tokens
  indents_eq : scan.indents = indents
  unkeyed : scan.key = none
  outside : scan.outerKeys = []

-- The start of a line, once the blocks are closed that do not reach as far.
structure AtLine (scan : Scan) (rest : List Char) (column : Nat) (tokens : List Token) (indents : List Nat) : Prop
    extends At scan rest column (closedTokens column tokens indents) (closedIndents column indents) where
  allowed : scan.keyAllowed = true

theorem settle_line (scan : Scan) (b : Char) (breaks : List Char) (n : Nat) (tail : List Char)
    (here : scan.at'.rest = b :: breaks ++ (spaces n ++ tail)) (plain : ∀ c ∈ b :: breaks, isPlainBreak c = true)
    (begins : Begins tail) (outside : scan.outerKeys = [])
    (loose : ∀ pending ∈ scan.key, pending.required = false ∧ pending.line ≤ scan.at'.line) :
    ∃ next, scan.settle? = some next ∧ AtLine next tail n scan.tokens scan.indents := by
  obtain ⟨next, skipped, rest, rfl, passed⟩ := skip_gap_lines scan b breaks n (scan.at'.rest.length + 1) tail here plain
    begins outside (by rw [here]; simp)
  have late := refresh_late next scan.key fun pending held =>
    ⟨(loose pending held).1, Nat.lt_of_le_of_lt (loose pending held).2 passed⟩
  exact ⟨_, settle_skipped scan next true none skipped outside late, ⟨rest, rfl, rfl, rfl, rfl, outside⟩, rfl⟩

theorem settle_next_line (scan : Scan) (tail : List Char) (here : scan.at'.rest = tail) (begins : Begins tail)
    (outside : scan.outerKeys = []) (allowed : scan.keyAllowed = true)
    (late : ∀ pending ∈ scan.key, pending.required = false ∧ pending.line < scan.at'.line) :
    ∃ next, scan.settle? = some next ∧ AtLine next tail scan.at'.column scan.tokens scan.indents := by
  have skipped : scan.skipGap (scan.at'.rest.length + 1) = { scan with at' := scan.at', keyAllowed := true } := by
    rw [skip_gap_spaces scan 0 _ tail here begins, ← allowed]
    rfl
  exact ⟨_, settle_skipped scan scan.at' true none skipped outside (refresh_late _ _ late),
    ⟨here, rfl, rfl, rfl, rfl, outside⟩, rfl⟩

theorem settle_inside (scan : Scan) (n : Nat) (tail : List Char) (here : scan.at'.rest = spaces n ++ tail)
    (begins : Begins tail) (outside : scan.outerKeys = []) (unkeyed : scan.key = none)
    (inside : ∀ h ∈ scan.indents.head?, h ≤ scan.at'.column + n) :
    ∃ next, scan.settle? = some next ∧ At next tail (scan.at'.column + n) scan.tokens scan.indents ∧
      next.keyAllowed = scan.keyAllowed := by
  have skipped := skip_gap_spaces scan n scan.at'.rest.length tail here begins
  have settled := settle_skipped scan (scan.at'.skip n) scan.keyAllowed none skipped outside (by rw [unkeyed]; rfl)
  rw [Cursor.skip_column, (closed_outer _ _ _ inside).1, (closed_outer _ scan.tokens _ inside).2] at settled
  exact ⟨_, settled, ⟨Cursor.skip_rest scan.at' _ _ _ here (spaces_length n).symm, rfl, rfl, rfl, rfl, outside⟩, rfl⟩

def Leads (scan : Scan) (rest : List Char) (column : Nat) (tokens : List Token) (indents : List Nat) : Prop :=
  ∃ stop, Advances scan stop ∧ AtLine stop rest column tokens indents

theorem leads_after (scan next : Scan) (rest : List Char) (column : Nat) (tokens : List Token) (indents : List Nat)
    (advances : Advances scan next) (leads : Leads next rest column tokens indents) :
    Leads scan rest column tokens indents := by
  obtain ⟨stop, others, there⟩ := leads
  exact ⟨stop, advances_trans scan next stop advances others, there⟩

theorem leads_out (scan : Scan) (rest : List Char) (column h : Nat) (tokens : List Token) (indents : List Nat)
    (inner : column < h) (leads : Leads scan rest column tokens (h :: indents)) :
    Leads scan rest column (.blockEnd :: tokens) indents := by
  obtain ⟨stop, advances, there, allowed⟩ := leads
  rw [(closed_inner column h tokens indents inner).1, (closed_inner column h tokens indents inner).2] at there
  exact ⟨stop, advances, there, allowed⟩

theorem advances_round (scan fetched next : Scan) (c : Char) (rest : List Char) (begins : scan.at'.rest = c :: rest)
    (fetch : scan.fetch? c rest = some fetched) (settle : fetched.settle? = some next)
    (shorter : next.at'.rest.length < scan.at'.rest.length) : Advances scan next :=
  .round scan fetched next next c rest begins fetch settle shorter (.here next)

end Scan

end ResourceRoutes.Yaml
