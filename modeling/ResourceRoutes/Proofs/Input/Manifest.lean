import ResourceRoutes.Command.Run
import ResourceRoutes.Proofs.Json.Datum
import ResourceRoutes.Proofs.Registry.Schedule
import ResourceRoutes.Proofs.Resource.Record
set_option autoImplicit false

namespace ResourceRoutes

namespace Resource

theorem offered_in_json (resource : Resource) : resource.Offered (Json.ofDocument resource.document) := by
  have methods : resource.descriptor.documentOfMethods.Within (Json.depthLimit - 2) :=
    resource.descriptor.document_within 120
  exact ⟨_, _, Json.members_of_record _, Json.decode_escape resource.name, Json.datum_of_document _ _ methods⟩

theorem read_all_documents (resources : List Resource) :
    readAll (Json.ofDocument (documents resources)) = .ok resources := by
  refine list_of_items read _ (fun resource => Json.ofDocument resource.document) resources ?_ fun resource _ =>
    resource.read_offered _ resource.offered_in_json
  show some (Json.ofDocuments (resources.map document)) = _
  rw [Json.of_documents_map, List.map_map]
  rfl

inductive WrittenAs (resources : List Resource) : List Char → Prop
  | oneLine (blanks : List Char) (blank : ∀ c ∈ blanks, Json.Token.isBlank c = true) :
      WrittenAs resources ((Json.ofDocument (documents resources)).compact ++ blanks)
  | manyLines (blanks : List Char) (blank : ∀ c ∈ blanks, Json.Token.isBlank c = true) :
      WrittenAs resources ((Json.render (documents resources)).toList ++ blanks)

theorem read_written (resources : List Resource) (text : List Char) (written : WrittenAs resources text) :
    Json.read? text = some (Json.ofDocument (documents resources)) := by
  cases written with
  | oneLine blanks blank => exact Json.read_compact _ blanks (Json.of_document_spelled _) blank
  | manyLines blanks blank => exact Json.read_render _ blanks blank

end Resource

namespace Input

theorem resources_listed (resources : List Resource) (text : String)
    (written : Resource.WrittenAs resources text.toList) : resourcesOfManifest? .json text = some resources := by
  rw [resourcesOfManifest?, Resource.read_written resources text.toList written, Option.bind_eq_bind,
    Option.bind_some, Resource.read_all_documents]
  rfl

theorem manifest_loaded (types : Source.TypeNames) (path text : String) (resources : List Resource)
    (kind : Kind.ofPath? path = some (.manifest .json)) (read : resourcesOfManifest? .json text = some resources) :
    ofContent types path (.ok text) = .ok (⟨moduleNameOf path, resources⟩, []) := by
  have format : manifestFormat path = .json := by
    rw [manifestFormat, kind]
    rfl
  rw [ofContent, kind, manifestOf, format, read]
  rfl

theorem source_loaded (types : Source.TypeNames) (path text : String) (resources : List Resource)
    (kind : Kind.ofPath? path = some .source) (found : Source.discover? types text = some resources) :
    ∃ events, ofContent types path (.ok text) = .ok (⟨moduleNameOf path, resources⟩, events) := by
  rw [Source.discover?, Option.map_eq_some_iff] at found
  obtain ⟨items, parsed, rfl⟩ := found
  have source : sourceOf types path (.ok text) =
      .ok (Source.resourcesOfItems types items, Source.skippedEvents items) := by
    unfold sourceOf
    dsimp only
    rw [parsed]
  refine ⟨Source.skippedEvents items, ?_⟩
  unfold ofContent
  rw [kind]
  dsimp only
  rw [source]
  rfl

end Input

theorem Gathering.same_reports (a b : Input) (same : a.resources = b.resources) (jobs jobs' : Nat) :
    (ofInput a jobs).reports = (ofInput b jobs').reports := by
  show (registry a).reportsWith jobs = (registry b).reportsWith jobs'
  rw [Registry.reports_with_jobs, Registry.reports_with_jobs, registry, registry, same]

theorem manifest_stands_for_source (resources : List Resource) (text : String)
    (written : Resource.WrittenAs resources text.toList) :
    Input.resourcesOfManifest? .json text = some resources ∧
      ∀ (types : Source.TypeNames) (source sourcePath manifestPath : String),
        Source.discover? types source = some resources →
        Input.Kind.ofPath? sourcePath = some .source →
        Input.Kind.ofPath? manifestPath = some (.manifest .json) →
        ∃ discovered events listed,
          Input.ofContent types sourcePath (.ok source) = .ok (discovered, events) ∧
          Input.ofContent types manifestPath (.ok text) = .ok (listed, []) ∧
          ∀ (jobs jobs' : Nat) (urlPrefix : String),
            (Gathering.ofInput listed jobs').reports = (Gathering.ofInput discovered jobs).reports ∧
              planRoutes (Gathering.ofInput listed jobs').reports urlPrefix =
                planRoutes (Gathering.ofInput discovered jobs).reports urlPrefix := by
  have read := Input.resources_listed resources text written
  refine ⟨read, ?_⟩
  intro types source sourcePath manifestPath found source_kind manifest_kind
  obtain ⟨events, discovered⟩ := Input.source_loaded types sourcePath source resources source_kind found
  have listed := Input.manifest_loaded types manifestPath text resources manifest_kind read
  refine ⟨_, events, _, discovered, listed, ?_⟩
  intro jobs jobs' urlPrefix
  have same := Gathering.same_reports ⟨Input.moduleNameOf manifestPath, resources⟩
    ⟨Input.moduleNameOf sourcePath, resources⟩ rfl jobs' jobs
  exact ⟨same, by rw [same]⟩

def todosSource : String := "struct Todos;impl Todos{fn put(w:&mut ResponseWriter)->u8{}}struct Empty;"

def todos : List Resource :=
  [⟨"Todos", .ofList [("Put", .function ⟨[.responseWriter], [.other "u8"]⟩)]⟩, ⟨"Empty", .empty⟩]

def namesakes : List Resource :=
  [⟨"name", .ofList [("", .value "\n"), ("methods", .value "name"), ("name", .function ⟨[], [.bool]⟩)]⟩]

theorem todos_listed :
    Source.discover? {} todosSource = some todos ∧ Input.Kind.ofPath? "todos.rs" = some .source ∧
      Input.Kind.ofPath? "a/todos.json" = some (.manifest .json) ∧
      Input.resourcesOfManifest? .json (Json.render (Resource.documents namesakes)) = some namesakes ∧
      ∃ discovered events listed,
        Input.ofContent {} "todos.rs" (.ok todosSource) = .ok (discovered, events) ∧
        Input.ofContent {} "a/todos.json"
            (.ok (String.ofList ((Json.ofDocument (Resource.documents todos)).compact ++ ['\n']))) =
          .ok (listed, []) ∧
        ∀ (jobs jobs' : Nat) (urlPrefix : String),
          (Gathering.ofInput listed jobs').reports = (Gathering.ofInput discovered jobs).reports ∧
            planRoutes (Gathering.ofInput listed jobs').reports urlPrefix =
              planRoutes (Gathering.ofInput discovered jobs).reports urlPrefix := by
  have found : Source.discover? {} todosSource = some todos := by decide +kernel
  have source_kind : Input.Kind.ofPath? "todos.rs" = some .source := by decide
  have manifest_kind : Input.Kind.ofPath? "a/todos.json" = some (.manifest .json) := by decide
  have lines : Resource.WrittenAs namesakes (Json.render (Resource.documents namesakes)).toList := by
    have written := @Resource.WrittenAs.manyLines namesakes [] (by simp)
    rwa [List.append_nil] at written
  have line : Resource.WrittenAs todos
      (String.ofList ((Json.ofDocument (Resource.documents todos)).compact ++ ['\n'])).toList := by
    rw [String.toList_ofList]
    exact .oneLine ['\n'] (List.forall_mem_singleton.mpr rfl)
  exact ⟨found, source_kind, manifest_kind, (manifest_stands_for_source namesakes _ lines).1,
    (manifest_stands_for_source todos _ line).2 {} todosSource "todos.rs" "a/todos.json" found source_kind
      manifest_kind⟩

end ResourceRoutes
