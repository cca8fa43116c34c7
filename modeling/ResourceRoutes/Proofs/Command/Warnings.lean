import ResourceRoutes.Command.Run
import ResourceRoutes.Files.Tree
import ResourceRoutes.Proofs.Introspection.States
import ResourceRoutes.Proofs.Registry.Registration
set_option autoImplicit false

namespace ResourceRoutes

def Descriptor.Breaks (d : Descriptor) (entry : String × Rule) : Prop :=
  ∃ callable, d.get? entry.1 = some callable ∧ callable.validate entry.2 true ≠ .ok ()

theorem breaks_iff (d : Descriptor) (entry : String × Rule) :
    (d.finding entry.1 entry.2).error?.isSome = true ↔ d.Breaks entry := by
  unfold Descriptor.finding Descriptor.Breaks
  cases d.get? entry.1 with
  | none => simp [Finding.error?]
  | some callable => cases checked : callable.validate entry.2 true <;> simp [checked, Finding.error?]

instance (d : Descriptor) (entry : String × Rule) : Decidable (d.Breaks entry) :=
  decidable_of_iff _ (breaks_iff d entry)

def Input.broken (input : Input) : List (String × String) :=
  input.resources.flatMap fun resource =>
    (recognized.filter fun entry => resource.descriptor.Breaks entry).map fun entry => (resource.name, entry.1)

theorem broken_iff (input : Input) : 0 < input.broken.length ↔
    ∃ resource ∈ input.resources, ∃ entry ∈ recognized, resource.descriptor.Breaks entry := by
  rw [List.length_pos_iff_exists_mem]
  constructor
  · rintro ⟨names, member⟩
    obtain ⟨resource, listed, own⟩ := List.mem_flatMap.mp member
    obtain ⟨entry, kept, -⟩ := List.mem_map.mp own
    obtain ⟨known, breaks⟩ := List.mem_filter.mp kept
    exact ⟨resource, listed, entry, known, of_decide_eq_true breaks⟩
  · rintro ⟨resource, listed, entry, known, breaks⟩
    have kept : entry ∈ recognized.filter fun entry => resource.descriptor.Breaks entry :=
      List.mem_filter.mpr ⟨known, decide_eq_true breaks⟩
    exact ⟨_, List.mem_flatMap.mpr ⟨resource, listed, List.mem_map_of_mem kept⟩⟩

theorem introspect_warned_count (name : String) (d : Descriptor) :
    (introspect name d).warnings.length = (recognized.filter fun entry => d.Breaks entry).length := by
  rw [introspect_warnings, List.length_filterMap_eq_countP, List.countP_eq_length_filter]
  congr 1
  refine List.filter_congr fun entry _ => Bool.eq_iff_iff.mpr ?_
  rw [Descriptor.warning?, Option.isSome_map, breaks_iff, decide_eq_true_eq]

namespace Gathering

theorem reports_of_input (input : Input) (jobs : Nat) : (ofInput input jobs).reports =
    input.resources.map fun resource => introspect resource.name resource.descriptor := by
  have registered : (registry input).resources = input.resources := Registry.extend_resources {} input.resources
  show (registry input).reportsWith jobs = _
  rw [Registry.reports_with_jobs, Registry.reports, registered]

theorem warning_count (input : Input) (jobs : Nat) : warningCount (ofInput input jobs).reports = input.broken.length := by
  rw [warningCount, reports_of_input, List.flatMap_map, List.length_flatMap, Input.broken, List.length_flatMap]
  simp only [introspect_warned_count, List.length_map]

def warningTexts (input : Input) : List String :=
  input.resources.flatMap fun resource =>
    (introspect resource.name resource.descriptor).warnings.map fun warning => resource.name ++ ": " ++ warning

theorem warning_lines (input : Input) (jobs : Nat) : (ofInput input jobs).warningLines = warningTexts input := by
  rw [warningLines, reports_of_input, List.flatMap_map]
  rfl

theorem count_line (input : Input) (jobs : Nat) : (ofInput input jobs).countLine =
    toString input.resources.length ++ " resource(s), " ++ toString input.broken.length ++ " warning(s)" := by
  rw [countLine, warning_count, reports_of_input, List.length_map]
  rfl

end Gathering

-- The lines and the notes among emissions. Events are neither.
structure Seen (emissions : List Emission) (lines notes : List String) : Prop where
  lines_eq : Outcome.outputLines ⟨emissions, none⟩ = lines
  notes_eq : Outcome.notes ⟨emissions, none⟩ = notes

theorem Seen.append {a b : List Emission} {lines lines' notes notes' : List String} (first : Seen a lines notes)
    (second : Seen b lines' notes') : Seen (a ++ b) (lines ++ lines') (notes ++ notes') := by
  obtain ⟨rfl, rfl⟩ := first
  obtain ⟨rfl, rfl⟩ := second
  exact ⟨List.filterMap_append, List.filterMap_append⟩

theorem seen_lines (lines : List String) : Seen (lines.map .output) lines [] := by
  induction lines with
  | nil => exact ⟨rfl, rfl⟩
  | cons line lines ih => exact ⟨congrArg (line :: ·) ih.lines_eq, ih.notes_eq⟩

theorem seen_notes (notes : List String) : Seen (notes.map .note) [] notes := by
  induction notes with
  | nil => exact ⟨rfl, rfl⟩
  | cons note notes ih => exact ⟨ih.lines_eq, congrArg (note :: ·) ih.notes_eq⟩

theorem seen_events (events : List Log.Event) : Seen (events.map .event) [] [] := by
  induction events with
  | nil => exact ⟨rfl, rfl⟩
  | cons event events ih => exact ⟨ih.lines_eq, ih.notes_eq⟩

theorem Seen.filtered {emissions : List Emission} {lines notes : List String} (seen : Seen emissions lines notes)
    (fault? : Option RunFault) (filter : Log.Filter) :
    Seen (Outcome.filtered ⟨emissions, fault?⟩ filter).emissions lines notes := by
  obtain ⟨rfl, rfl⟩ := seen
  constructor
  · rw [Outcome.outputLines, Outcome.filtered, List.filterMap_filter]
    refine List.filterMap_congr fun emission _ => ?_
    cases emission <;> simp
  · rw [Outcome.notes, Outcome.filtered, List.filterMap_filter]
    refine List.filterMap_congr fun emission _ => ?_
    cases emission <;> simp

def Gathering.checked (input : Input) (jobs : Nat) (path : String) (denyWarnings : Bool) (events : List Log.Event)
    (settings : Log.Settings) (env : Environment) : Outcome :=
  let told := Command.showWarnings (ofInput input jobs) path denyWarnings
  let shown := Outcome.filtered ⟨events.map .event ++ told.emissions, told.fault?⟩ (Log.Filter.build settings env)
  ⟨(Log.Filter.refusals settings).map .note ++ shown.emissions, told.fault?⟩

section

variable (input : Input) (jobs : Nat) (path : String) (denyWarnings : Bool) (events : List Log.Event)
  (settings : Log.Settings) (env : Environment)

theorem checked_seen : Seen (Gathering.checked input jobs path denyWarnings events settings env).emissions
    (Gathering.warningTexts input)
    (Log.Filter.refusals settings ++
      [toString input.resources.length ++ " resource(s), " ++ toString input.broken.length ++ " warning(s)"]) := by
  have warnings := (seen_lines (Gathering.warningTexts input)).append (seen_notes [(Gathering.ofInput input jobs).countLine])
  rw [List.append_nil, List.nil_append, ← Gathering.warning_lines input jobs] at warnings
  have shown := ((seen_events events).append warnings).filtered
    (Command.showWarnings (.ofInput input jobs) path denyWarnings).fault? (Log.Filter.build settings env)
  rw [← Gathering.warning_lines input jobs, ← Gathering.count_line input jobs]
  exact (seen_notes (Log.Filter.refusals settings)).append shown

theorem checked_fails_iff : (Gathering.checked input jobs path denyWarnings events settings env).exitCode ≠ 0 ↔
    denyWarnings = true ∧ ∃ resource ∈ input.resources, ∃ entry ∈ recognized, resource.descriptor.Breaks entry := by
  have fault : (Gathering.checked input jobs path denyWarnings events settings env).fault? =
      if denyWarnings = true ∧ 0 < input.broken.length then some (.warnings input.broken.length path) else none := by
    rw [← Gathering.warning_count input jobs]
    rfl
  rw [Outcome.exitCode, fault, ← broken_iff]
  by_cases denied : denyWarnings = true ∧ 0 < input.broken.length
  · rw [if_pos denied]
    exact iff_of_true (show (1 : UInt8) ≠ 0 by decide) denied
  · rw [if_neg denied]
    exact iff_of_false (show ¬ (0 : UInt8) ≠ 0 by decide) denied

end

theorem run_bind_of {σ α β : Type} {action : StateM σ α} {next : α → StateM σ β} {start after : σ} {a : α}
    (ran : action.run start = (a, after)) : (action >>= next).run start = (next a).run after := by
  rw [StateT.run_bind, ran]
  rfl

section

variable {σ : Type} {files : FileAccess (StateM σ)} {env : Environment} {line : CommandLine} {path : String}
  {denyWarnings : Bool} {config : Config} {input : Input} {discovered : List Log.Event} {start configured loaded : σ}

theorem run_check (asked : line.command = .check path denyWarnings)
    (settled : (Config.load files env line.config?).run start = (.ok config, configured))
    (found : (Input.load files (line.configured config).types path).run configured = (.ok (input, discovered), loaded)) :
    (line.run files env).run start =
      (Gathering.checked input (line.configured config).jobs path denyWarnings (discovered ++ Gathering.events input)
        (line.logSettings env) env, loaded) := by
  have performed : (line.command.perform files (line.configured config)).run configured =
      (⟨(discovered ++ Gathering.events input).map .event ++
          (Command.showWarnings (.ofInput input (line.configured config).jobs) path denyWarnings).emissions,
        (Command.showWarnings (.ofInput input (line.configured config).jobs) path denyWarnings).fault?⟩, loaded) := by
    rw [asked]
    exact run_bind_of found
  exact (run_bind_of settled).trans (run_bind_of performed)

theorem check_tells_broken (asked : line.command = .check path denyWarnings)
    (settled : (Config.load files env line.config?).run start = (.ok config, configured))
    (found : (Input.load files (line.configured config).types path).run configured = (.ok (input, discovered), loaded)) :
    ∃ outcome, (line.run files env).run start = (outcome, loaded) ∧
      (outcome.exitCode ≠ 0 ↔ denyWarnings = true ∧
        ∃ resource ∈ input.resources, ∃ entry ∈ recognized, resource.descriptor.Breaks entry) ∧
      outcome.output = String.join ((Gathering.warningTexts input).map (· ++ "\n")) ∧
      outcome.notes = Log.Filter.refusals (line.logSettings env) ++
        [toString input.resources.length ++ " resource(s), " ++ toString input.broken.length ++ " warning(s)"] := by
  obtain ⟨lines, notes⟩ := checked_seen input (line.configured config).jobs path denyWarnings
    (discovered ++ Gathering.events input) (line.logSettings env) env
  exact ⟨_, run_check asked settled found, checked_fails_iff .., by rw [← lines]; rfl, notes⟩

end

def brokenFiles : FileTree := .ofFiles [("m.json", .text
  "[\x7b\"name\":\"A\",\"methods\":\x7b\"Put\":\x7b\"Value\":\x7b\"type_name\":\"u8\"\x7d\x7d,\"BeforeAll\":\x7b\"Value\":\x7b\"type_name\":\"B\"\x7d\x7d\x7d\x7d,\x7b\"name\":\"B\"\x7d]")]

def brokenInput : Input where
  moduleName := "m"
  resources := [⟨"A", .ofList [("Put", .value "u8"), ("BeforeAll", .value "B")]⟩, ⟨"B", .empty⟩]

theorem broken_members_denied :
    (Input.load FileTree.access {} "m.json").run brokenFiles = (.ok (brokenInput, []), brokenFiles) ∧
      ∃ outcome, (CommandLine.run FileTree.access {} ⟨none, some 0, .check "m.json" true⟩).run brokenFiles =
          (outcome, brokenFiles) ∧
        outcome.exitCode ≠ 0 ∧
        outcome.output = "A: method 'Put' is present but invalid: not a function: u8\n" ++
          "A: method 'BeforeAll' is present but invalid: not a function: B\n" ∧
        outcome.notes = ["2 resource(s), 2 warning(s)"] := by
  have found : (Input.load FileTree.access {} "m.json").run brokenFiles = (.ok (brokenInput, []), brokenFiles) := by
    show (_ : Except InputFault (Input × List Log.Event) × FileTree) = _
    decide +kernel
  have denied : ∃ resource ∈ brokenInput.resources, ∃ entry ∈ recognized, resource.descriptor.Breaks entry :=
    (broken_iff brokenInput).mp (by decide)
  have asked : (CommandLine.mk none (some 0) (.check "m.json" true)).command = .check "m.json" true := rfl
  have settled : (Config.load FileTree.access {} none).run brokenFiles = (.ok {}, brokenFiles) := rfl
  obtain ⟨outcome, ran, fails, output, notes⟩ := check_tells_broken asked settled found
  refine ⟨found, outcome, ran, fails.mpr ⟨rfl, denied⟩, output.trans (by decide), notes.trans (by decide)⟩

end ResourceRoutes
