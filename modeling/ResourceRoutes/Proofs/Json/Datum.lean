import ResourceRoutes.Json.Datum
import ResourceRoutes.Proofs.Exchange.Datum
import ResourceRoutes.Proofs.Json.RoundTrip
set_option autoImplicit false

namespace ResourceRoutes.Json

theorem of_documents_map (items : List Document) : ofDocuments items = items.map ofDocument :=
  item_by_item rfl (fun _ _ => rfl) items

mutual
theorem datum_of_document (document : Document) (room : Nat) (within : document.Within room) :
    datum? room (ofDocument document) = some (.ofDocument document) := by
  cases document with
  | text content =>
    rw [ofDocument, ofString, datum?, decode_escape]
    rfl
  | nat n =>
    rw [ofDocument, ofNat, datum?]
    rw [← ofNat, nat_of_nat n within]
    rfl
  | flag value =>
    rw [ofDocument, datum?]
    rfl
  | list items =>
    cases room with
    | zero => exact within.elim
    | succ room =>
      rw [ofDocument, datum?, datum_of_documents items room within]
      rfl
  | record fields =>
    cases room with
    | zero => exact within.elim
    | succ room =>
      rw [ofDocument, datum?]
      exact congrArg (Option.map Datum.table) (datum_of_fields fields room within)

theorem datum_of_documents (items : List Document) (room : Nat) (within : WithinItems items room) :
    (ofDocuments items).mapM (datum? room) = some (Datum.ofDocuments items) := by
  cases items with
  | nil => rfl
  | cons item items =>
    rw [ofDocuments, List.mapM_cons, datum_of_document item room within.1, datum_of_documents items room within.2]
    rfl

theorem datum_of_fields (fields : List (String × Document)) (room : Nat) (within : WithinFields fields room) :
    ((ofFields fields).mapM fun (key, value) => do
      let key ← decode? key
      let value ← datum? room value
      return (Datum.text key, value)) = some (Datum.ofFields fields) := by
  cases fields with
  | nil => rfl
  | cons field fields =>
    obtain ⟨name, value⟩ := field
    rw [ofFields, List.mapM_cons, datum_of_fields fields room within.2]
    simp only [decode_escape, datum_of_document value room within.1]
    rfl
end

theorem members_of_record (fields : List (String × Document)) :
    members? (ofDocument (.record fields)) = some (fields.map fun field => (field.1, ofDocument field.2)) := by
  show (ofFields fields).mapM _ = _
  induction fields with
  | nil => rfl
  | cons field fields ih =>
    rw [ofFields, List.mapM_cons, ih, decode_escape]
    rfl

end ResourceRoutes.Json
