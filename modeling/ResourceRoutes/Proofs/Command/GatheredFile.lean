import ResourceRoutes.Command.Run
import ResourceRoutes.Proofs.Introspection.Finding
import ResourceRoutes.Proofs.Json.RoundTrip
import ResourceRoutes.Proofs.Registry.Schedule
import ResourceRoutes.Proofs.Report.Padding
set_option autoImplicit false

/- The line feed behind a rendered report becomes part of a last warning that keeps all its breaks in YAML. -/
namespace ResourceRoutes

namespace Yaml.Text

structure KeepsBreaks (cs : List Char) : Prop where
  fed : '\n' ∈ cs
  printable : ∀ c ∈ cs, isPrintable c = true
  unspaced : hasPair isSpace isBreak cs = false
  broken : ∃ before last, cs = before ++ [last] ∧ isBreak last = true ∧ ∀ c ∈ before.getLast?, isBreak c = true

theorem keeps_breaks_iff (cs : List Char) : KeepsBreaks cs ↔ style cs = .literal ∧ chompingMark cs = ['+'] := by
  constructor
  · rintro ⟨fed, printable, unspaced, before, last, rfl, broken, several⟩
    have spaceless : isSpace last = false := by
      have blank := break_not_blank last broken
      simp only [isBlank, Bool.or_eq_false_iff] at blank
      exact blank.1
    have fits : fitsLiteral (before ++ [last]) = true := by
      rw [fitsLiteral, unspaced, List.all_eq_true.mpr printable, List.getLast?_concat, Option.any_some, spaceless]
      rfl
    have all : before.getLast?.all isBreak = true := by
      cases held : before.getLast? with
      | none => rfl
      | some c => exact several c held
    exact ⟨by rw [style, if_pos (List.contains_iff_mem.mpr fed), if_pos fits], by simp [chompingMark, broken, all]⟩
  · rintro ⟨written, mark⟩
    cases styled cs with
    | literal _ fed fits =>
      simp only [fitsLiteral, Bool.and_eq_true, Bool.not_eq_true', List.all_eq_true] at fits
      obtain ⟨⟨printable, -⟩, unspaced⟩ := fits
      have present : cs ≠ [] := by
        rintro rfl
        cases fed
      cases ending cs present with
      | several _ before last split broken several =>
        exact ⟨List.contains_iff_mem.mp fed, printable, unspaced, before, last, split, broken, several⟩
      | solid other => rw [mark] at other; cases other
      | single other => rw [mark] at other; cases other
    | plain other => rw [written] at other; cases other
    | single other => rw [written] at other; cases other
    | double other => rw [written] at other; cases other

theorem with_breaks_same_iff (cs : List Char) (b : Char) : withBreaks cs [b] = cs ↔ ¬ KeepsBreaks cs := by
  rw [keeps_breaks_iff, withBreaks]
  split
  · rename_i kept
    simp [kept]
  · rename_i other
    simp [other]

end Yaml.Text

namespace Report

def EndsOpen (reports : List Report) : Prop :=
  ∃ report ∈ reports.getLast?, ∃ warning ∈ report.warnings.getLast?, Yaml.Text.KeepsBreaks warning.toList

end Report

namespace Gathering

theorem reports_sized (input : Input) (jobs : Nat) :
    ∀ report ∈ (ofInput input jobs).reports, ∀ record ∈ report.handlers, record.params < natBound := by
  intro report member record held
  have listed : report ∈ (registry input).reports := by
    rw [← Registry.reports_with_jobs (registry input) jobs]
    exact member
  obtain ⟨resource, -, rfl⟩ := List.mem_map.mp listed
  rw [introspect_handlers] at held
  obtain ⟨⟨kind, params⟩, found, rfl⟩ := List.mem_map.mp held
  obtain ⟨sig, -, -, counted⟩ := Descriptor.finding_accepted _ _ _ _
    ((Descriptor.mem_found_handlers resource.descriptor kind params).mp found)
  show params < natBound
  have bound : 3 < natBound := by decide
  omega

theorem file_text (gathering : Gathering) (format : DocumentFormat) :
    gathering.fileText format = Report.render format gathering.reports ++ String.ofList ['\n'] := rfl

end Gathering

theorem gathered_file_reads_back_iff (input : Input) (jobs : Nat) (format : DocumentFormat) :
    Report.ofText? format ((Gathering.ofInput input jobs).fileText format) = some (Gathering.ofInput input jobs).reports ↔
      (format = .yaml → ¬ Report.EndsOpen (Gathering.ofInput input jobs).reports) := by
  have sized := Gathering.reports_sized input jobs
  rw [Gathering.file_text]
  cases format with
  | json =>
    have read := json_report_read_back _ ['\n'] sized (List.forall_mem_singleton.mpr rfl)
    simp [read]
  | yaml =>
    have read := yaml_report_text _ ['\n'] sized (List.forall_mem_singleton.mpr rfl)
    rw [read, Option.some_inj, Report.padded_reports_same_iff]
    simp only [Yaml.Text.with_breaks_same_iff, Report.EndsOpen]
    simp

def openEnded : Input where
  moduleName := "manifest"
  resources := [⟨"A", Descriptor.ofList [("GetMany", .value "a\n\n")]⟩]

theorem gathered_file_takes_in_break :
    (Gathering.ofInput openEnded 1).reports =
        [⟨"A", [], false, false, false, ["method 'GetMany' is present but invalid: not a function: a\n\n"]⟩] ∧
      Report.ofText? .yaml ((Gathering.ofInput openEnded 1).fileText .yaml) =
        some [⟨"A", [], false, false, false, ["method 'GetMany' is present but invalid: not a function: a\n\n\n"]⟩] ∧
      Report.ofText? .yaml ((Gathering.ofInput openEnded 1).fileText .yaml) ≠
        some (Gathering.ofInput openEnded 1).reports := by
  have gathered : (Gathering.ofInput openEnded 1).reports =
      [⟨"A", [], false, false, false, ["method 'GetMany' is present but invalid: not a function: a\n\n"]⟩] := by decide
  have read := yaml_report_text _ ['\n'] (Gathering.reports_sized openEnded 1) (List.forall_mem_singleton.mpr rfl)
  rw [Gathering.file_text, read, gathered]
  decide

end ResourceRoutes
