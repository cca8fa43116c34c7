import ResourceRoutes.Json.Readable
import ResourceRoutes.Proofs.Exchange.Record
import ResourceRoutes.Proofs.Json.Reader
import ResourceRoutes.Proofs.Json.Text
import ResourceRoutes.Report.Text
set_option autoImplicit false

namespace ResourceRoutes

namespace Json

theorem decode_escape (s : String) : decode? (Text.escape s.toList) = some s := by
  rw [decode?, Text.unescape_escape, Option.map_some, String.ofList_toList]

theorem nat_of_nat (n : Nat) (bound : n < natBound) : (ofNat n).nat? = some n := by
  have digits : (Nat.toDigits 10 n).all Char.isDigit = true :=
    List.all_eq_true.mpr (Decimal.digits_are_digits n)
  simp [ofNat, nat?, Decimal.digits_value, digits, bound]

mutual
theorem shows_of_document (document : Document) (fits : document.Fits) : Shows document (ofDocument document) := by
  cases document with
  | text content => exact decode_escape content
  | nat n => exact nat_of_nat n fits
  | flag value => rfl
  | list items => exact ⟨_, rfl, shows_of_documents items fits⟩
  | record fields =>
    obtain ⟨entries, decoded, shown⟩ := shows_of_fields fields fits
    refine ⟨entries, fun names => ?_, shown⟩
    show some (Fields.mk _ _) = some (Fields.mk entries true)
    rw [decoded, taken_entries]
    simp

theorem shows_of_documents (items : List Document) (fits : FitItems items) :
    ShowsItems items (ofDocuments items) := by
  cases items with
  | nil => trivial
  | cons item items => exact ⟨shows_of_document item fits.1, shows_of_documents items fits.2⟩

theorem shows_of_fields (fields : List (String × Document)) (fits : FitFields fields) :
    ∃ entries : List (String × Json),
      (ofFields fields).map (fun member => (decode? member.1).map (·, member.2)) = entries.map some ∧
        ShowsFields fields entries := by
  cases fields with
  | nil => exact ⟨[], rfl, trivial⟩
  | cons field fields =>
    obtain ⟨name, value⟩ := field
    obtain ⟨entries, decoded, shown⟩ := shows_of_fields fields fits.2
    refine ⟨(name, ofDocument value) :: entries, ?_, rfl, shows_of_document value fits.1, shown⟩
    rw [ofFields, List.map_cons, decoded, decode_escape]
    rfl
end

theorem read_render (document : Document) (blanks : List Char)
    (blank : ∀ c ∈ blanks, Token.isBlank c = true) :
    read? ((render document).toList ++ blanks) = some (ofDocument document) := by
  rw [render, String.toList_ofList]
  exact read_pretty _ blanks (of_document_spelled document) blank

end Json

theorem json_report_read_back (reports : List Report) (blanks : List Char)
    (sized : ∀ report ∈ reports, ∀ record ∈ report.handlers, record.params < natBound)
    (blank : ∀ c ∈ blanks, Json.Token.isBlank c = true) :
    Report.ofText? .json (Report.render .json reports ++ String.ofList blanks) = some reports := by
  have shown := Json.shows_of_document _ (report_documents_fit reports sized)
  rw [Report.ofText?, String.toList_append, String.toList_ofList, Report.render, DocumentFormat.render,
    Json.read_render _ blanks blank, Option.bind_eq_bind, Option.bind_some, Report.read_all_shown reports _ shown]
  rfl

theorem json_round_trip (reports : List Report) (plans : List ResourcePlan)
    (reports_sized : ∀ report ∈ reports, ∀ record ∈ report.handlers, record.params < natBound)
    (plans_sized : ∀ plan ∈ plans, ∀ route ∈ plan.routes, route.params < natBound) :
    Report.ofText? .json (Report.render .json reports) = some reports ∧
      (Json.read? (DocumentFormat.json.render (ResourcePlan.documents plans)).toList).map ResourcePlan.readAll =
        some (.ok plans) := by
  constructor
  · simpa using json_report_read_back reports [] reports_sized (by simp)
  · have shown := Json.shows_of_document _ (plan_documents_fit plans plans_sized)
    have read := Json.read_render (ResourcePlan.documents plans) [] (by simp)
    rw [List.append_nil] at read
    rw [DocumentFormat.render, read, Option.map_some, ResourcePlan.read_all_shown plans _ shown]

theorem json_round_trip_escapes :
    Report.ofText? .json (Report.render .json [⟨"a\"\\\n\x01é", [⟨"", 18446744073709551615⟩], true, false, true, ["", "\t"]⟩]) =
        some [⟨"a\"\\\n\x01é", [⟨"", 18446744073709551615⟩], true, false, true, ["", "\t"]⟩] ∧
      (Json.read? (DocumentFormat.json.render
          (ResourcePlan.documents [⟨"\x7bbase\x7d", "", [⟨.patch, .patch, "/\u2028", 0, [.beforeAll]⟩]⟩])).toList).map
          ResourcePlan.readAll =
        some (.ok [⟨"\x7bbase\x7d", "", [⟨.patch, .patch, "/\u2028", 0, [.beforeAll]⟩]⟩]) :=
  json_round_trip _ _ (by decide) (by decide)

end ResourceRoutes
