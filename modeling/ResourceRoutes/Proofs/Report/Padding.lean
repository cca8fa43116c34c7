import ResourceRoutes.Proofs.Yaml.Readable
import ResourceRoutes.Report.Text
set_option autoImplicit false

/- Only the last warning of the last report can take in breaks behind the text. -/
namespace ResourceRoutes

def padLast {α : Type} (pad : α → α) : List α → List α
  | [] => []
  | [x] => [pad x]
  | x :: next :: rest => x :: padLast pad (next :: rest)

theorem pad_last_all {α : Type} (pad : α → α) (p : α → Prop) (xs : List α) (each : ∀ x ∈ xs, p x)
    (kept : ∀ x, p x → p (pad x)) : ∀ x ∈ padLast pad xs, p x := by
  induction xs using padLast.induct with
  | case1 => exact each
  | case2 x =>
    intro y member
    rw [List.mem_singleton.mp member]
    exact kept x (each x (List.mem_cons_self ..))
  | case3 x next rest ih =>
    obtain ⟨first, others⟩ := List.forall_mem_cons.mp each
    exact List.forall_mem_cons.mpr ⟨first, ih others⟩

theorem pad_last_same_iff {α : Type} (pad : α → α) (xs : List α) :
    padLast pad xs = xs ↔ ∀ x ∈ xs.getLast?, pad x = x := by
  induction xs using padLast.induct with
  | case1 => simp [padLast]
  | case2 x => simp [padLast]
  | case3 x next rest ih => simp [padLast, ih]

namespace Report

def padded (extra : List Char) (report : Report) : Report :=
  { report with
    warnings := padLast (fun warning => String.ofList (Yaml.Text.withBreaks warning.toList extra)) report.warnings }

theorem padded_same_iff (extra : List Char) (report : Report) :
    report.padded extra = report ↔
      ∀ warning ∈ report.warnings.getLast?, Yaml.Text.withBreaks warning.toList extra = warning.toList := by
  have texts (warning : String) : String.ofList (Yaml.Text.withBreaks warning.toList extra) = warning ↔
      Yaml.Text.withBreaks warning.toList extra = warning.toList := by
    rw [← String.toList_inj, String.toList_ofList]
  have kept := pad_last_same_iff (fun warning => String.ofList (Yaml.Text.withBreaks warning.toList extra)) report.warnings
  simp only [texts] at kept
  rw [← kept]
  constructor
  · exact fun same => congrArg warnings same
  · intro same
    rw [padded, same]

theorem padded_reports_same_iff (extra : List Char) (reports : List Report) :
    padLast (padded extra) reports = reports ↔
      ∀ report ∈ reports.getLast?, ∀ warning ∈ report.warnings.getLast?,
        Yaml.Text.withBreaks warning.toList extra = warning.toList := by
  simp only [pad_last_same_iff, padded_same_iff]

theorem padded_items_map {α : Type} (document : α → Document) (pad : α → α) (extra : List Char) (xs : List α)
    (each : ∀ x, Yaml.padded extra (document x) = document (pad x)) :
    Yaml.paddedItems extra (xs.map document) = (padLast pad xs).map document := by
  induction xs using padLast.induct with
  | case1 => rfl
  | case2 x => simp [Yaml.paddedItems, padLast, each]
  | case3 x next rest ih =>
    simp only [List.map_cons] at ih
    simp only [List.map_cons, Yaml.paddedItems, padLast, ih]

theorem padded_document (extra : List Char) (report : Report) :
    Yaml.padded extra report.document = (report.padded extra).document := by
  have warnings := padded_items_map Document.text _ extra report.warnings fun warning => rfl
  simp only [document, Yaml.padded, Yaml.paddedFields, warnings, padded]

theorem padded_documents (extra : List Char) (reports : List Report) :
    Yaml.padded extra (documents reports) = documents (padLast (padded extra) reports) := by
  rw [documents, documents, Yaml.padded, padded_items_map document (padded extra) extra reports (padded_document extra)]

end Report

theorem report_names (report : Report) : Yaml.Named report.document := by
  have handlers := Yaml.named_items_map HandlerRecord.document report.handlers fun record _ =>
    show Yaml.Named record.document from ⟨by decide, trivial, by decide, trivial, trivial⟩
  have warnings := Yaml.named_items_map Document.text report.warnings fun _ _ => trivial
  exact ⟨by decide, trivial, by decide, handlers, by decide, trivial, by decide, trivial, by decide, trivial, by decide,
    warnings, trivial⟩

theorem yaml_report_text (reports : List Report) (extra : List Char)
    (sized : ∀ report ∈ reports, ∀ record ∈ report.handlers, record.params < natBound)
    (breaks : ∀ c ∈ extra, Yaml.isPlainBreak c = true) :
    Report.ofText? .yaml (Report.render .yaml reports ++ String.ofList extra) =
      some (padLast (Report.padded extra) reports) := by
  have named := Yaml.named_items_map Report.document reports fun report _ => report_names report
  have still_sized := pad_last_all (Report.padded extra) _ reports sized fun _ held => held
  have fits := report_documents_fit _ still_sized
  have read := Yaml.read_render (reports.map Report.document) extra named breaks
  rw [← Report.documents, Report.padded_documents] at read
  have shown := Yaml.shows_of_tree _ fits
  rw [Report.ofText?, String.toList_append, String.toList_ofList, Report.render, DocumentFormat.render, read,
    Option.bind_eq_bind, Option.bind_some, Report.read_all_shown _ _ shown]
  rfl

end ResourceRoutes
