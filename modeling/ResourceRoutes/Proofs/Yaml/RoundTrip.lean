import ResourceRoutes.Proofs.Report.Padding
set_option autoImplicit false

namespace ResourceRoutes

theorem plan_names (plan : ResourcePlan) : Yaml.Named plan.document := by
  have hooks (route : PlannedRoute) :=
    Yaml.named_items_map (fun hook : HookKind => Document.text hook.name) route.hooks fun _ _ => trivial
  have routes := Yaml.named_items_map PlannedRoute.document plan.routes fun route _ =>
    show Yaml.Named route.document from
      ⟨by decide, trivial, by decide, trivial, by decide, trivial, by decide, trivial, by decide, hooks route, trivial⟩
  exact ⟨by decide, trivial, by decide, trivial, by decide, routes, trivial⟩

theorem yaml_round_trip (reports : List Report) (plans : List ResourcePlan)
    (reports_sized : ∀ report ∈ reports, ∀ record ∈ report.handlers, record.params < natBound)
    (plans_sized : ∀ plan ∈ plans, ∀ route ∈ plan.routes, route.params < natBound) :
    Report.ofText? .yaml (Report.render .yaml reports) = some reports ∧
      (Yaml.read? (DocumentFormat.yaml.render (ResourcePlan.documents plans)).toList).map
          (fun tree => ResourcePlan.readAll (Yaml.View.ofTree tree)) = some (.ok plans) := by
  constructor
  · have read := yaml_report_text reports [] reports_sized (by simp)
    rw [(Report.padded_reports_same_iff [] reports).mpr (by simp [Yaml.Text.withBreaks])] at read
    simpa using read
  · have named := Yaml.named_items_map ResourcePlan.document plans fun plan _ => plan_names plan
    have shown := Yaml.shows_of_tree _ (plan_documents_fit plans plans_sized)
    have read := Yaml.read_render (plans.map ResourcePlan.document) [] named (by simp)
    rw [List.append_nil, ← ResourcePlan.documents, Yaml.padded_nothing] at read
    rw [DocumentFormat.render, read, Option.map_some, ResourcePlan.read_all_shown plans _ shown]

theorem yaml_round_trip_styles :
    Report.ofText? .yaml (Report.render .yaml [
        ⟨"", [⟨"- a: b #c", 18446744073709551615⟩], true, false, true,
          ["null", "0x1F", " a ", "---", "\'\"", "a\n\n b\n\n", "\n a", "a \nb", "a\u2028b", "\x01\ufeff"]⟩]) =
        some [⟨"", [⟨"- a: b #c", 18446744073709551615⟩], true, false, true,
          ["null", "0x1F", " a ", "---", "\'\"", "a\n\n b\n\n", "\n a", "a \nb", "a\u2028b", "\x01\ufeff"]⟩] ∧
      (Yaml.read? (DocumentFormat.yaml.render
          (ResourcePlan.documents [⟨"\x7bbase\x7d", "~", [⟨.patch, .patch, "/a\n", 0, [.beforeAll]⟩]⟩])).toList).map
          (fun tree => ResourcePlan.readAll (Yaml.View.ofTree tree)) =
        some (.ok [⟨"\x7bbase\x7d", "~", [⟨.patch, .patch, "/a\n", 0, [.beforeAll]⟩]⟩]) :=
  yaml_round_trip _ _ (by decide) (by decide)

end ResourceRoutes
