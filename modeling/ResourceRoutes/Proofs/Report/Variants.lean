import ResourceRoutes.Proofs.Exchange.Rearranged
import ResourceRoutes.Proofs.Json.Datum
set_option autoImplicit false

namespace ResourceRoutes

namespace Json

theorem fields_of_members (names : List String) (v : Json) (entries : List (String × Json))
    (held : v.members? = some entries) : Readable.fields names v = .ok ⟨entries, true⟩ := by
  cases v with
  | object members =>
    have decoded := map_of_mapM _ members entries held
    have read : fields? names (.object members) = some ⟨entries, true⟩ := by
      rw [fields?, decoded, taken_entries]
      simp
    exact congrArg ReadFault.require read
  | null | bool | number | string | array => cases held

theorem read_of_string (s : String) : Readable.text (ofString s) = .ok s := read_text s _ (decode_escape s)

theorem read_of_nat (n : Nat) (bound : n < natBound) : Readable.nat (ofNat n) = .ok n :=
  read_nat n _ (nat_of_nat n bound)

end Json

namespace HandlerRecord

def members (record : HandlerRecord) : List (String × Json) :=
  [("Name", .ofString record.name), ("Params", .ofNat record.params)]

def Edited (record : HandlerRecord) (lost : List (String × Json)) (v : Json) : Prop :=
  ∃ entries, v.members? = some entries ∧ Rearranged fieldNames record.members lost entries

theorem read_edited (record : HandlerRecord) (sized : record.params < natBound) (v : Json) (edited : record.Edited [] v) :
    HandlerRecord.read v = .ok record := by
  obtain ⟨entries, held, moved⟩ := edited
  have distinct : (record.members.map (·.1)).Nodup := by simp [members]
  have name := moved.required_kept distinct "Name" (.ofString record.name) Readable.text (by decide) (by simp [members])
    nofun
  have params := moved.required_kept distinct "Params" (.ofNat record.params) Readable.nat (by decide) (by simp [members])
    nofun
  rw [HandlerRecord.read, Json.fields_of_members _ v entries held]
  simp only [bind, Except.bind, name, params, Json.read_of_string, Json.read_of_nat _ sized]
  rfl

theorem read_lacking (record : HandlerRecord) (lost : List (String × Json)) (some : lost ≠ []) (v : Json)
    (edited : record.Edited lost v) : ∃ fault, HandlerRecord.read v = .error fault := by
  obtain ⟨entries, held, moved⟩ := edited
  have distinct : (record.members.map (·.1)).Nodup := by simp [members]
  have name_known : ("Name", Json.ofString record.name) ∈ record.members := by simp [members]
  have params_known : ("Params", Json.ofNat record.params) ∈ record.members := by simp [members]
  rw [HandlerRecord.read, Json.fields_of_members _ v entries held]
  simp only [bind, Except.bind]
  by_cases unnamed : ∃ entry ∈ lost, entry.1 = "Name"
  · rw [moved.required_dropped distinct "Name" _ Readable.text (by decide) name_known unnamed]
    exact ⟨_, rfl⟩
  · have named : ∀ entry ∈ lost, entry.1 ≠ "Name" := fun entry listed same => unnamed ⟨entry, listed, same⟩
    have uncounted : ∃ entry ∈ lost, entry.1 = "Params" := by
      obtain ⟨entry, listed⟩ := List.exists_mem_of_ne_nil lost some
      have written := moved.dropped_written entry listed
      simp only [members, List.mem_cons, List.not_mem_nil, or_false] at written
      cases written with
      | inl first => exact absurd (congrArg Prod.fst first) (named entry listed)
      | inr second => exact ⟨entry, listed, congrArg Prod.fst second⟩
    rw [moved.required_kept distinct "Name" _ Readable.text (by decide) name_known named, Json.read_of_string]
    simp only [moved.required_dropped distinct "Params" _ Readable.nat (by decide) params_known uncounted]
    exact ⟨_, rfl⟩

end HandlerRecord

namespace Report

def members (report : Report) (handlers : List Json) : List (String × Json) :=
  [("StructName", .ofString report.structName),
   ("Handlers", .array handlers),
   ("HasBeforeOne", .bool report.hasBeforeOne),
   ("HasBeforeMany", .bool report.hasBeforeMany),
   ("HasBeforeAll", .bool report.hasBeforeAll),
   ("Warnings", .array (report.warnings.map .ofString))]

def defaults : List (String × Json) :=
  [("Handlers", .array []), ("HasBeforeOne", .bool false), ("HasBeforeMany", .bool false),
   ("HasBeforeAll", .bool false), ("Warnings", .array [])]

-- The written report with its members in any order and others among them, and without those in `dropped`, which
-- say what is said by default, or give the name.
structure Edited (report : Report) (handlers : List Json) (dropped : List (String × Json)) (v : Json) : Prop where
  moved : ∃ entries, v.members? = some entries ∧ Rearranged fieldNames (report.members handlers) dropped entries
  spare : ∀ entry ∈ dropped, entry.1 = "StructName" ∨ entry ∈ defaults

structure Variant (report : Report) (v : Json) : Prop where
  complete : ∃ handlers dropped, report.Edited handlers dropped v ∧ (∀ entry ∈ dropped, entry.1 ≠ "StructName") ∧
    List.Forall₂ (fun record handler => HandlerRecord.Edited record [] handler) report.handlers handlers

inductive Lacking (report : Report) (v : Json) : Prop where
  | ofName (handlers : List Json) (dropped : List (String × Json)) (edited : report.Edited handlers dropped v)
      (unnamed : ∃ entry ∈ dropped, entry.1 = "StructName")
  | ofHandler (handlers : List Json) (dropped : List (String × Json)) (edited : report.Edited handlers dropped v)
      (named : ∀ entry ∈ dropped, entry.1 ≠ "StructName") (record : HandlerRecord) (lost : List (String × Json))
      (handler : Json) (listed : handler ∈ handlers) (lacking : record.Edited lost handler) (some : lost ≠ [])

theorem members_distinct (report : Report) (handlers : List Json) :
    ((report.members handlers).map (·.1)).Nodup := by simp [members]

variable {report : Report} {handlers : List Json} {dropped entries : List (String × Json)}

theorem read_flag_member (moved : Rearranged fieldNames (report.members handlers) dropped entries)
    (spare : ∀ entry ∈ dropped, entry.1 = "StructName" ∨ entry ∈ defaults) (name : String) (value : Bool)
    (known : name ∈ ["HasBeforeOne", "HasBeforeMany", "HasBeforeAll"])
    (member : (name, .bool value) ∈ report.members handlers) :
    Fields.optional ⟨entries, true⟩ name false Readable.flag = .ok value := by
  have own : ∀ name ∈ ["HasBeforeOne", "HasBeforeMany", "HasBeforeAll"], name ∈ fieldNames ∧ name ≠ "StructName" := by
    decide
  obtain ⟨field, other⟩ := own name known
  refine moved.optional_kept (members_distinct report handlers) name (.bool value) false Readable.flag field member ?_
  intro missing
  have default := (spare _ missing).resolve_left other
  have unset : value = false := by
    simp only [defaults, List.mem_cons, Prod.mk.injEq, Json.bool.injEq, reduceCtorEq, and_false, List.not_mem_nil,
      or_false, false_or] at default
    exact default.elim And.right fun others => others.elim And.right And.right
  rw [unset]
  rfl

theorem read_list_member {α : Type} (moved : Rearranged fieldNames (report.members handlers) dropped entries)
    (spare : ∀ entry ∈ dropped, entry.1 = "StructName" ∨ entry ∈ defaults) (name : String) (items : List Json)
    (item : Json → Except ReadFault α) (known : name ∈ ["Handlers", "Warnings"])
    (member : (name, .array items) ∈ report.members handlers) :
    Fields.optional ⟨entries, true⟩ name [] (Readable.list item) = items.mapM item := by
  have own : ∀ name ∈ ["Handlers", "Warnings"], name ∈ fieldNames ∧ name ≠ "StructName" := by decide
  obtain ⟨field, other⟩ := own name known
  refine moved.optional_kept (members_distinct report handlers) name (.array items) [] (Readable.list item) field member ?_
  intro missing
  have default := (spare _ missing).resolve_left other
  have empty : items = [] := by
    simp only [defaults, List.mem_cons, Prod.mk.injEq, Json.array.injEq, reduceCtorEq, and_false, List.not_mem_nil,
      or_false, false_or] at default
    exact default.elim And.right And.right
  rw [empty]
  rfl

theorem read_named (report : Report) (handlers : List Json) (dropped : List (String × Json)) (v : Json)
    (edited : report.Edited handlers dropped v) (named : ∀ entry ∈ dropped, entry.1 ≠ "StructName") :
    Report.read v = (handlers.mapM HandlerRecord.read).map fun records => { report with handlers := records } := by
  obtain ⟨⟨entries, held, moved⟩, spare⟩ := edited
  have name := moved.required_kept (members_distinct report handlers) "StructName" (.ofString report.structName)
    Readable.text (by decide) (by simp [members]) named
  have records := read_list_member moved spare "Handlers" handlers HandlerRecord.read (by decide) (by simp [members])
  have one := read_flag_member moved spare "HasBeforeOne" report.hasBeforeOne (by decide) (by simp [members])
  have many := read_flag_member moved spare "HasBeforeMany" report.hasBeforeMany (by decide) (by simp [members])
  have all := read_flag_member moved spare "HasBeforeAll" report.hasBeforeAll (by decide) (by simp [members])
  have warnings := read_list_member moved spare "Warnings" (report.warnings.map .ofString) Readable.text (by decide)
    (by simp [members])
  rw [mapM_map_same Readable.text Json.ofString report.warnings fun text _ => Json.read_of_string text] at warnings
  rw [Report.read, Json.fields_of_members _ v entries held]
  simp only [bind, Except.bind, name, records, one, many, all, warnings, Json.read_of_string]
  cases handlers.mapM HandlerRecord.read <;> rfl

theorem read_handlers (records : List HandlerRecord) (handlers : List Json)
    (sized : ∀ record ∈ records, record.params < natBound)
    (whole : List.Forall₂ (fun record handler => HandlerRecord.Edited record [] handler) records handlers) :
    handlers.mapM HandlerRecord.read = .ok records := by
  induction whole with
  | nil => rfl
  | cons first _ ih =>
    obtain ⟨small, others⟩ := List.forall_mem_cons.mp sized
    rw [List.mapM_cons, HandlerRecord.read_edited _ small _ first, ih others]
    rfl

theorem read_variant (report : Report) (sized : ∀ record ∈ report.handlers, record.params < natBound) (v : Json)
    (variant : report.Variant v) : Report.read v = .ok report := by
  obtain ⟨handlers, dropped, edited, named, whole⟩ := variant
  rw [read_named report handlers dropped v edited named, read_handlers _ handlers sized whole]
  rfl

theorem read_lacking (report : Report) (v : Json) (lacking : report.Lacking v) : ∃ fault, Report.read v = .error fault := by
  cases lacking with
  | ofName handlers dropped edited unnamed =>
    obtain ⟨⟨entries, held, moved⟩, -⟩ := edited
    have name := moved.required_dropped (members_distinct report handlers) "StructName" (.ofString report.structName)
      Readable.text (by decide) (by simp [members]) unnamed
    rw [Report.read, Json.fields_of_members _ v entries held]
    simp only [bind, Except.bind, name]
    exact ⟨_, rfl⟩
  | ofHandler handlers dropped edited named record lost handler listed lacking some =>
    obtain ⟨fault, failed⟩ := record.read_lacking lost some handler lacking
    rw [read_named report handlers dropped v edited named]
    cases read : handlers.mapM HandlerRecord.read with
    | error first => exact ⟨first, rfl⟩
    | ok records =>
      have none := fault_mapM HandlerRecord.read handlers
      rw [read] at none
      have passed := List.findSome?_eq_none_iff.mp none.symm handler listed
      rw [failed] at passed
      cases passed

theorem variant_itself (report : Report) : report.Variant (Json.ofDocument report.document) := by
  refine ⟨report.handlers.map fun record => Json.ofDocument record.document, [], ⟨⟨_, ?_, .refl _ _⟩, nofun⟩, nofun, ?_⟩
  · rw [document, Json.members_of_record]
    simp [members, Json.ofDocument, Json.of_documents_map]
  · rw [List.forall₂_map_right_iff, List.forall₂_same]
    intro record _
    refine ⟨_, ?_, .refl _ _⟩
    rw [HandlerRecord.document, Json.members_of_record]
    rfl

end Report

theorem variants_read (report : Report) (sized : ∀ record ∈ report.handlers, record.params < natBound) (v : Json) :
    report.Variant (Json.ofDocument report.document) ∧
      (report.Variant v → Report.read v = .ok report) ∧
      (report.Lacking v → ∃ fault, Report.read v = .error fault) ∧
      ∀ (layout : Json.Layout) (blanks : List Char), v.Spelled → (∀ c ∈ blanks, Json.Token.isBlank c = true) →
        (report.Variant v →
          Report.ofText? .json (String.ofList (Json.laid layout 0 (.array [v]) ++ blanks)) = some [report]) ∧
        (report.Lacking v → Report.ofText? .json (String.ofList (Json.laid layout 0 (.array [v]) ++ blanks)) = none) := by
  have of_text (layout : Json.Layout) (blanks : List Char) (spelled : v.Spelled)
      (blank : ∀ c ∈ blanks, Json.Token.isBlank c = true) :
      Report.ofText? .json (String.ofList (Json.laid layout 0 (.array [v]) ++ blanks)) =
        ((Report.read v).map fun report => [report]).toOption := by
    have array : (Json.array [v]).Spelled := ⟨spelled, trivial⟩
    have alone : Report.readAll (Json.array [v]) = (Report.read v).map fun report => [report] := by
      show [v].mapM Report.read = _
      rw [List.mapM_cons, List.mapM_nil]
      cases Report.read v <;> rfl
    rw [Report.ofText?, String.toList_ofList, Json.read_laid layout _ blanks array blank, ← alone]
    rfl
  refine ⟨report.variant_itself, Report.read_variant report sized v, Report.read_lacking report v, fun layout blanks spelled blank => ⟨?_, ?_⟩⟩
  · intro variant
    rw [of_text layout blanks spelled blank, Report.read_variant report sized v variant]
    rfl
  · intro lacking
    obtain ⟨fault, failed⟩ := Report.read_lacking report v lacking
    rw [of_text layout blanks spelled blank, failed]
    rfl

def ofPut : Report := { structName := "S", handlers := [⟨"Put", 2⟩], warnings := ["w"] }

def reversedMembers (handler : List (List Char × Json)) : Json :=
  .object [("x".toList, .null), ("Warnings".toList, .array [.string ['w']]),
    ("Handlers".toList, .array [.object handler]), ("StructName".toList, .string ['S'])]

theorem edited_reversed (handler : List (List Char × Json)) :
    ofPut.Edited [.object handler]
      [("HasBeforeOne", .bool false), ("HasBeforeMany", .bool false), ("HasBeforeAll", .bool false)]
      (reversedMembers handler) := by
  refine ⟨⟨_, rfl, ?_⟩, ?_⟩
  · refine .intro [("StructName", .string ['S']), ("Handlers", .array [.object handler]),
      ("Warnings", .array [.string ['w']])] [("x", .null)] ?_ (List.reverse_perm _) ?_
    · exact .cons _ (.cons _ (List.perm_append_singleton _ _).symm)
    · simp [Report.fieldNames]
  · simp [Report.defaults]

theorem reversed_members_read :
    Report.read (reversedMembers
        [("y".toList, .array []), ("Params".toList, .number ['2']), ("Name".toList, .string "Put".toList)]) = .ok ofPut ∧
      ∃ fault, Report.read (reversedMembers [("Params".toList, .number ['2'])]) = .error fault := by
  have sized : ∀ record ∈ ofPut.handlers, record.params < natBound := by decide
  constructor
  · refine (variants_read ofPut sized _).2.1 ⟨_, _, edited_reversed _, by decide, .cons ⟨_, rfl, ?_⟩ .nil⟩
    exact .intro [("Name", .string "Put".toList), ("Params", .number ['2'])] [("y", .array [])] (.refl _)
      (List.reverse_perm _) (by decide)
  · refine (variants_read ofPut sized _).2.2.1 (.ofHandler _ _ (edited_reversed _) (by decide) ⟨"Put", 2⟩
      [("Name", .ofString "Put")] _ (List.mem_singleton_self _) ⟨_, rfl, ?_⟩ nofun)
    exact .intro [("Params", .ofNat 2)] [] (.swap ..) (.refl _) nofun

end ResourceRoutes
