import Mathlib.Data.List.Nodup
import ResourceRoutes.Proofs.Introspection.Finding
set_option autoImplicit false

namespace ResourceRoutes

def recognized : List (String × Rule) :=
  (HandlerKind.all.map fun kind => (kind.name, .handler)) ++ HookKind.all.map fun hook => (hook.name, .hook)

theorem recognized_distinct : (recognized.map (·.1)).Nodup := by decide

theorem handler_recognized (kind : HandlerKind) : (kind.name, .handler) ∈ recognized := by cases kind <;> decide

theorem hook_recognized (hook : HookKind) : (hook.name, .hook) ∈ recognized := by cases hook <;> decide

theorem HandlerKind.name_injective (a b : HandlerKind) (same : a.name = b.name) : a = b := by
  have read := HandlerKind.ofName_name a
  rw [same, HandlerKind.ofName_name] at read
  exact (Except.ok.inj read).symm

theorem HookKind.name_injective (a b : HookKind) (same : a.name = b.name) : a = b := by
  have read := HookKind.ofName_name a
  rw [same, HookKind.ofName_name] at read
  exact (Except.ok.inj read).symm

theorem handler_no_hook (kind : HandlerKind) (hook : HookKind) : hook.name ≠ kind.name := by
  cases kind <;> cases hook <;> decide

theorem recognized_cases (entry : String × Rule) (known : entry ∈ recognized) :
    (∃ kind : HandlerKind, entry = (kind.name, .handler)) ∨ ∃ hook : HookKind, entry = (hook.name, .hook) := by
  rcases List.mem_append.mp known with of_handler | of_hook
  · obtain ⟨kind, -, rfl⟩ := List.mem_map.mp of_handler
    exact .inl ⟨kind, rfl⟩
  · obtain ⟨hook, -, rfl⟩ := List.mem_map.mp of_hook
    exact .inr ⟨hook, rfl⟩

def warningLead (method : String) : String := "method '" ++ method ++ "' is present but invalid: "

theorem warning_text (method : String) (error : SignatureError) :
    warningText method error = warningLead method ++ error.message := by
  simp [warningText, warningLead, toString, String.append_assoc]

namespace Report

def recordsOf (report : Report) (method : String) : List HandlerRecord := report.handlers.filter (·.name == method)

def warningsOf (report : Report) (method : String) : List String :=
  report.warnings.filter fun text => (warningLead method).toList.isPrefixOf text.toList

end Report

theorem recognized_unquoted : ∀ entry ∈ recognized, '\'' ∉ entry.1.toList := by decide

theorem same_before_mark (mark : Char) (a b x y : List Char) (absent_a : mark ∉ a) (absent_b : mark ∉ b)
    (same : a ++ mark :: x = b ++ mark :: y) : a = b := by
  have cut (before after : List Char) (absent : mark ∉ before) :
      (before ++ mark :: after).takeWhile (· != mark) = before := by
    have passed : ∀ c ∈ before, (c != mark) = true := fun c member =>
      bne_iff_ne.mpr fun same : c = mark => absent (same ▸ member)
    simp [List.takeWhile_append_of_pos passed]
  rw [← cut a x absent_a, same, cut b y absent_b]

-- The name ends at its closing quote, so no name is taken for one that goes on.
theorem warning_about_iff (method other : String) (error : SignatureError) (plain : '\'' ∉ method.toList)
    (plain_other : '\'' ∉ other.toList) :
    (warningLead method).toList.isPrefixOf (warningText other error).toList = true ↔ other = method := by
  rw [List.isPrefixOf_iff_prefix, warning_text]
  constructor
  · rintro ⟨rest, same⟩
    simp only [warningLead, String.toList_append, List.append_assoc, List.append_cancel_left_eq] at same
    have names := same_before_mark '\'' method.toList other.toList _ _ plain plain_other same
    exact (String.toList_inj.mp names).symm
  · rintro rfl
    exact ⟨error.message.toList, (String.toList_append ..).symm⟩

theorem own_entry {κ β : Type} [DecidableEq κ] (keys : List κ) (entry : κ → Option β) (about : κ → β → Bool) (key : κ)
    (distinct : keys.Nodup) (listed : key ∈ keys)
    (own : ∀ other ∈ keys, ∀ b, entry other = some b → (about key b = true ↔ other = key)) :
    (keys.filterMap entry).filter (about key) = (entry key).toList := by
  induction keys with
  | nil => cases listed
  | cons first rest ih =>
    obtain ⟨fresh, rest_distinct⟩ := List.nodup_cons.mp distinct
    have rest_own := fun other member => own other (List.mem_cons_of_mem first member)
    by_cases here : first = key
    · subst here
      have others : (rest.filterMap entry).filter (about first) = [] := by
        refine List.filter_eq_nil_iff.mpr fun b made told => ?_
        obtain ⟨other, member, held⟩ := List.mem_filterMap.mp made
        exact fresh ((rest_own other member b held).mp told ▸ member)
      cases held : entry first with
      | none => simp [held, others]
      | some b =>
        have told := (own first (List.mem_cons_self ..) b held).mpr rfl
        simp [held, told, others]
    · have later : key ∈ rest := (List.mem_cons.mp listed).resolve_left fun same => here same.symm
      rw [← ih rest_distinct later rest_own]
      cases held : entry first with
      | none => simp [held]
      | some b =>
        have untold : ¬ about key b = true := fun told =>
          here ((own first (List.mem_cons_self ..) b held).mp told)
        simp [held, untold]

theorem countP_split {α : Type} (xs : List α) (p q r : α → Bool)
    (split : ∀ x, (if p x then 1 else 0) + (if q x then 1 else 0) = if r x then 1 else 0) :
    xs.countP p + xs.countP q = xs.countP r := by
  induction xs with
  | nil => rfl
  | cons x xs ih =>
    have here := split x
    simp only [List.countP_cons]
    omega

namespace Descriptor

theorem finding_absent_iff (d : Descriptor) (method : String) (rule : Rule) :
    d.finding method rule = .absent ↔ d.get? method = none := by
  unfold finding
  cases d.get? method with
  | none => simp
  | some callable => cases checked : callable.validate rule true <;> simp [checked]

theorem finding_rejected_iff (d : Descriptor) (method : String) (rule : Rule) (error : SignatureError) :
    d.finding method rule = .rejected error ↔
      ∃ callable, d.get? method = some callable ∧ callable.validate rule true = .error error := by
  unfold finding
  cases d.get? method with
  | none => simp
  | some callable => cases checked : callable.validate rule true <;> simp [checked]

theorem finding_congr (a b : Descriptor) (method : String) (rule : Rule) (same : a.get? method = b.get? method) :
    a.finding method rule = b.finding method rule := by
  rw [finding, finding, same]

def warning? (d : Descriptor) (entry : String × Rule) : Option String :=
  (d.finding entry.1 entry.2).error?.map (warningText entry.1)

def record? (d : Descriptor) (kind : HandlerKind) : Option HandlerRecord :=
  (d.handlerFinding kind).params?.map fun params => ⟨kind.name, params⟩

end Descriptor

theorem introspect_warnings (name : String) (d : Descriptor) :
    (introspect name d).warnings = recognized.filterMap d.warning? := by
  rw [recognized, List.filterMap_append, List.filterMap_map, List.filterMap_map]
  rfl

theorem introspect_hook (name : String) (d : Descriptor) (hook : HookKind) :
    (introspect name d).hasHook hook = (d.hookFinding hook).params?.isSome := by
  cases hook <;> rfl

theorem introspect_warnings_of (name : String) (d : Descriptor) (entry : String × Rule) (known : entry ∈ recognized) :
    (introspect name d).warningsOf entry.1 = (d.warning? entry).toList := by
  rw [Report.warningsOf, introspect_warnings]
  refine own_entry recognized d.warning? (fun key text => (warningLead key.1).toList.isPrefixOf text.toList) entry
    recognized_distinct.of_map known fun other listed text made => ?_
  obtain ⟨error, -, rfl⟩ := Option.map_eq_some_iff.mp made
  rw [warning_about_iff entry.1 other.1 error (recognized_unquoted entry known) (recognized_unquoted other listed)]
  exact ⟨fun same => List.inj_on_of_nodup_map recognized_distinct listed known same, fun same => same ▸ rfl⟩

theorem introspect_records_of (name : String) (d : Descriptor) (kind : HandlerKind) :
    (introspect name d).recordsOf kind.name = (d.record? kind).toList := by
  refine own_entry HandlerKind.all d.record? (fun key record => record.name == key.name) kind (by decide)
    (by cases kind <;> decide) fun other _ record made => ?_
  obtain ⟨params, -, rfl⟩ := Option.map_eq_some_iff.mp made
  exact beq_iff_eq.trans ⟨HandlerKind.name_injective other kind, fun same => same ▸ rfl⟩

inductive Settled (d : Descriptor) (method : String) (rule : Rule) (marked : Signature → Prop) (unmarked : Prop)
    (warnings : List String) : Prop where
  | absent (missing : d.get? method = none) (skipped : unmarked) (silent : warnings = [])
  | accepted (sig : Signature) (held : d.get? method = some (.function sig)) (valid : sig.validate rule true = .ok ())
      (taken : marked sig) (silent : warnings = [])
  | rejected (callable : Callable) (error : SignatureError) (held : d.get? method = some callable)
      (invalid : callable.validate rule true = .error error) (skipped : unmarked)
      (warned : warnings = [warningText method error])

section

variable {d : Descriptor} {method : String} {rule : Rule} {marked : Signature → Prop} {unmarked : Prop}
  {warnings : List String}

theorem Settled.skipped_of_warned (settled : Settled d method rule marked unmarked warnings) (warned : warnings ≠ []) :
    unmarked := by
  cases settled with
  | absent _ skipped _ => exact skipped
  | accepted _ _ _ _ silent => exact absurd silent warned
  | rejected _ _ _ _ skipped _ => exact skipped

theorem Settled.warned_iff (settled : Settled d method rule marked unmarked warnings) (callable : Callable)
    (held : d.get? method = some callable) : warnings ≠ [] ↔ callable.validate rule true ≠ .ok () := by
  cases settled with
  | absent missing _ _ => rw [missing] at held; cases held
  | accepted sig found valid _ silent =>
    cases found.symm.trans held
    exact iff_of_false (absurd silent) (absurd valid)
  | rejected other error found invalid _ warned =>
    cases found.symm.trans held
    rw [warned, invalid]
    exact iff_of_true nofun nofun

end

theorem settled_of_finding (d : Descriptor) (method : String) (rule : Rule) (marked : Signature → Prop)
    (unmarked : Prop) (taken : ∀ sig, d.finding method rule = .accepted (sig.arity - 1) → marked sig)
    (skipped : (d.finding method rule).params? = none → unmarked) :
    Settled d method rule marked unmarked (d.warning? (method, rule)).toList := by
  cases found : d.finding method rule with
  | absent =>
    exact .absent ((d.finding_absent_iff method rule).mp found) (skipped (by simp [found, Finding.params?]))
      (by simp [Descriptor.warning?, found, Finding.error?])
  | accepted params =>
    obtain ⟨sig, held, valid, counted⟩ := (d.finding_accepted_iff method rule params).mp found
    exact .accepted sig held valid (taken sig (counted ▸ found)) (by simp [Descriptor.warning?, found, Finding.error?])
  | rejected error =>
    obtain ⟨callable, held, invalid⟩ := (d.finding_rejected_iff method rule error).mp found
    exact .rejected callable error held invalid (skipped (by simp [found, Finding.params?]))
      (by simp [Descriptor.warning?, found, Finding.error?])

theorem handler_settled (name : String) (d : Descriptor) (kind : HandlerKind) :
    Settled d kind.name .handler
      (fun sig => (introspect name d).recordsOf kind.name = [⟨kind.name, sig.arity - 1⟩] ∧
        (sig.arity - 1 = 2 ∨ sig.arity - 1 = 3))
      ((introspect name d).recordsOf kind.name = []) ((introspect name d).warningsOf kind.name) := by
  rw [introspect_warnings_of name d _ (handler_recognized kind), introspect_records_of]
  refine settled_of_finding d kind.name .handler _ _ (fun sig found => ⟨?_, ?_⟩) fun none_found => ?_
  · simp [Descriptor.record?, Descriptor.handlerFinding, found, Finding.params?]
  · obtain ⟨-, -, -, range⟩ := d.finding_accepted kind.name .handler _ found
    exact range
  · simp [Descriptor.record?, Descriptor.handlerFinding, none_found]

theorem hook_settled (name : String) (d : Descriptor) (hook : HookKind) :
    Settled d hook.name .hook (fun _ => (introspect name d).hasHook hook = true)
      ((introspect name d).hasHook hook = false) ((introspect name d).warningsOf hook.name) := by
  rw [introspect_warnings_of name d _ (hook_recognized hook), introspect_hook]
  refine settled_of_finding d hook.name .hook _ _ (fun sig found => ?_) fun none_found => ?_
  · simp [Descriptor.hookFinding, found, Finding.params?]
  · simp [Descriptor.hookFinding, none_found]

theorem introspect_handlers_in_order (name : String) (d : Descriptor) :
    (introspect name d).handlers = HandlerKind.all.flatMap fun kind => (introspect name d).recordsOf kind.name := by
  simp only [introspect_records_of, ← List.filterMap_eq_flatMap_toList]
  rfl

theorem introspect_warnings_in_order (name : String) (d : Descriptor) :
    (introspect name d).warnings = recognized.flatMap fun entry => (introspect name d).warningsOf entry.1 := by
  rw [introspect_warnings, List.filterMap_eq_flatMap_toList]
  exact List.flatMap_congr fun entry known => (introspect_warnings_of name d entry known).symm

theorem introspect_counts (name : String) (d : Descriptor) :
    (introspect name d).handlers.length + HookKind.all.countP (introspect name d).hasHook +
        (introspect name d).warnings.length =
      recognized.countP fun entry => (d.get? entry.1).isSome := by
  have marked : (introspect name d).handlers.length + HookKind.all.countP (introspect name d).hasHook =
      recognized.countP fun entry => (d.finding entry.1 entry.2).params?.isSome := by
    rw [recognized, List.countP_append, List.countP_map, List.countP_map]
    simp only [introspect, List.length_filterMap_eq_countP, Option.isSome_map]
    rfl
  have warned : (introspect name d).warnings.length =
      recognized.countP fun entry => (d.finding entry.1 entry.2).error?.isSome := by
    simp only [introspect_warnings, List.length_filterMap_eq_countP, Descriptor.warning?, Option.isSome_map]
  rw [marked, warned]
  refine countP_split recognized _ _ _ fun entry => ?_
  unfold Descriptor.finding
  cases d.get? entry.1 with
  | none => rfl
  | some callable =>
    cases checked : callable.validate entry.2 true <;> simp [checked, Finding.params?, Finding.error?]

theorem introspect_congr (name : String) (a b : Descriptor) (same : ∀ entry ∈ recognized, a.get? entry.1 = b.get? entry.1) :
    introspect name a = introspect name b := by
  have handlers (kind : HandlerKind) : a.handlerFinding kind = b.handlerFinding kind :=
    Descriptor.finding_congr a b kind.name .handler (same _ (handler_recognized kind))
  have hooks (hook : HookKind) : a.hookFinding hook = b.hookFinding hook :=
    Descriptor.finding_congr a b hook.name .hook (same _ (hook_recognized hook))
  simp only [introspect, handlers, hooks]

theorem record_of_kind (name : String) (d : Descriptor) (record : HandlerRecord)
    (recorded : record ∈ (introspect name d).handlers) :
    ∃ kind : HandlerKind, record.name = kind.name ∧ record ∈ (introspect name d).recordsOf kind.name := by
  rw [introspect_handlers_in_order] at recorded
  obtain ⟨kind, -, own⟩ := List.mem_flatMap.mp recorded
  exact ⟨kind, beq_iff_eq.mp (List.mem_filter.mp own).2, own⟩

theorem hook_unrecorded (name : String) (d : Descriptor) (hook : HookKind) :
    (introspect name d).recordsOf hook.name = [] := by
  refine List.filter_eq_nil_iff.mpr fun record recorded same => ?_
  obtain ⟨kind, named, -⟩ := record_of_kind name d record recorded
  rw [beq_iff_eq, named] at same
  exact handler_no_hook kind hook same.symm

theorem recorded_unwarned (name : String) (d : Descriptor) (record : HandlerRecord)
    (recorded : record ∈ (introspect name d).handlers) : (introspect name d).warningsOf record.name = [] := by
  obtain ⟨kind, named, own⟩ := record_of_kind name d record recorded
  rw [named]
  by_contra warned
  exact List.ne_nil_of_mem own ((handler_settled name d kind).skipped_of_warned warned)

structure Report.Settles (name : String) (d : Descriptor) (report : Report) : Prop where
  named : report.structName = name
  handler_settled : ∀ kind : HandlerKind, Settled d kind.name .handler
    (fun sig => report.recordsOf kind.name = [⟨kind.name, sig.arity - 1⟩] ∧ (sig.arity - 1 = 2 ∨ sig.arity - 1 = 3))
    (report.recordsOf kind.name = []) (report.warningsOf kind.name)
  hook_settled : ∀ hook : HookKind, Settled d hook.name .hook (fun _ => report.hasHook hook = true)
    (report.hasHook hook = false) (report.warningsOf hook.name)
  hook_unrecorded : ∀ hook : HookKind, report.recordsOf hook.name = []
  handlers_in_order : report.handlers = HandlerKind.all.flatMap fun kind => report.recordsOf kind.name
  warnings_in_order : report.warnings =
    (HandlerKind.all.flatMap fun kind => report.warningsOf kind.name) ++
      HookKind.all.flatMap fun hook => report.warningsOf hook.name
  recorded_unwarned : ∀ record ∈ report.handlers, report.warningsOf record.name = []
  counted : report.handlers.length + HookKind.all.countP report.hasHook + report.warnings.length =
    recognized.countP fun entry => (d.get? entry.1).isSome

theorem introspection_settles (name : String) (d : Descriptor) :
    (introspect name d).Settles name d ∧
      ∀ other : Descriptor, (∀ entry ∈ recognized, other.get? entry.1 = d.get? entry.1) →
        introspect name other = introspect name d := by
  refine ⟨?_, fun other same => introspect_congr name other d same⟩
  exact {
    named := rfl
    handler_settled := handler_settled name d
    hook_settled := hook_settled name d
    hook_unrecorded := hook_unrecorded name d
    handlers_in_order := introspect_handlers_in_order name d
    warnings_in_order := by
      rw [introspect_warnings_in_order, recognized, List.flatMap_append, List.flatMap_map, List.flatMap_map]
    recorded_unwarned := recorded_unwarned name d
    counted := introspect_counts name d }

end ResourceRoutes
