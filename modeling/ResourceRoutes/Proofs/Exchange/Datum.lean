import ResourceRoutes.Datum
import ResourceRoutes.Decimal
import ResourceRoutes.Document
import ResourceRoutes.Proofs.Traversal
set_option autoImplicit false

namespace ResourceRoutes

theorem list_of_items {ν α : Type} [Readable ν] (item : ν → Except ReadFault α) (v : ν) (value : α → ν) (as : List α)
    (items : Readable.items? v = some (as.map value)) (each : ∀ a ∈ as, item (value a) = .ok a) :
    Readable.list item v = .ok as := by
  rw [Readable.list, items]
  exact mapM_map_same item value as each

namespace Datum

mutual
def ofDocument : Document → Datum
  | .text content => .text content
  | .nat n => .nat n
  | .flag value => .flag value
  | .list items => .list (ofDocuments items)
  | .record fields => .table (ofFields fields)

def ofDocuments : List Document → List Datum
  | [] => []
  | item :: items => ofDocument item :: ofDocuments items

def ofFields : List (String × Document) → List (Datum × Datum)
  | [] => []
  | (name, value) :: fields => (.text name, ofDocument value) :: ofFields fields
end

theorem of_documents_map (items : List Document) : ofDocuments items = items.map ofDocument :=
  item_by_item rfl (fun _ _ => rfl) items

theorem of_fields_map (fields : List (String × Document)) :
    ofFields fields = fields.map fun field => (.text field.1, ofDocument field.2) :=
  item_by_item rfl (fun _ _ => rfl) fields

theorem read_items {α : Type} (item : Datum → Except ReadFault α) (document : α → Document) (as : List α)
    (each : ∀ a ∈ as, item (ofDocument (document a)) = .ok a) :
    Readable.list item (ofDocument (.list (as.map document))) = .ok as := by
  refine list_of_items item _ (fun a => ofDocument (document a)) as ?_ each
  show some (ofDocuments (as.map document)) = _
  rw [of_documents_map, List.map_map]
  rfl

theorem fields_of_record (names : List String) (fields : List (String × Document)) :
    Readable.fields names (ofDocument (.record fields)) =
      .ok ⟨fields.map fun field => (field.1, ofDocument field.2), true⟩ := by
  have named : (ofFields fields).map (fun entry => (entry.1.fieldName? names).map (·, entry.2)) =
      (fields.map fun field => (field.1, ofDocument field.2)).map some := by
    rw [of_fields_map, List.map_map, List.map_map]
    rfl
  show ReadFault.require (some (Fields.mk _ _)) = _
  rw [named]
  simp [ReadFault.require]

end Datum

mutual
def Document.Within : Document → Nat → Prop
  | .text _, _ | .flag _, _ => True
  | .nat n, _ => n < natBound
  | .list items, room + 1 => WithinItems items room
  | .record fields, room + 1 => WithinFields fields room
  | .list _, 0 | .record _, 0 => False

def WithinItems : List Document → Nat → Prop
  | [], _ => True
  | item :: items, room => item.Within room ∧ WithinItems items room

def WithinFields : List (String × Document) → Nat → Prop
  | [], _ => True
  | (_, value) :: fields, room => value.Within room ∧ WithinFields fields room
end

theorem within_items_map {α : Type} (document : α → Document) (room : Nat) (xs : List α)
    (each : ∀ x ∈ xs, (document x).Within room) : WithinItems (xs.map document) room :=
  @said_of_map _ _ (WithinItems · room) (Document.Within · room) trivial (fun _ _ first others => ⟨first, others⟩)
    document xs each

theorem within_fields_map {α : Type} (field : α → String × Document) (room : Nat) (xs : List α)
    (each : ∀ x ∈ xs, (field x).2.Within room) : WithinFields (xs.map field) room :=
  @said_of_map _ _ (WithinFields · room) (fun field => field.2.Within room) trivial
    (fun _ _ first others => ⟨first, others⟩) field xs each

end ResourceRoutes
