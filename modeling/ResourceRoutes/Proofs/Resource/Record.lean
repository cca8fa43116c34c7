import ResourceRoutes.Proofs.Exchange.Datum
import ResourceRoutes.Proofs.Resource.Members
import ResourceRoutes.Resource.Record
set_option autoImplicit false

namespace ResourceRoutes

namespace ParamKind

theorem read_document (reading : Reading) (kind : ParamKind) : read reading (.ofDocument kind.document) = .ok kind := by
  cases kind <;> rfl

theorem document_within (kind : ParamKind) (room : Nat) : kind.document.Within (room + 1) := by
  cases kind with
  | context | responseWriter | requestPointer => trivial
  | other name => exact ⟨trivial, trivial⟩

end ParamKind

namespace ReturnKind

theorem read_document (reading : Reading) (kind : ReturnKind) :
    read reading (.ofDocument kind.document) = .ok kind := by
  cases kind <;> rfl

theorem document_within (kind : ReturnKind) (room : Nat) : kind.document.Within (room + 1) := by
  cases kind with
  | bool => trivial
  | other name => exact ⟨trivial, trivial⟩

end ReturnKind

namespace Signature

theorem read_document (reading : Reading) (sig : Signature) :
    read reading (.ofDocument sig.document) = .ok sig := by
  have params := Datum.read_items (ParamKind.read reading) ParamKind.document sig.params
    fun kind _ => kind.read_document reading
  have returns := Datum.read_items (ReturnKind.read reading) ReturnKind.document sig.returns
    fun kind _ => kind.read_document reading
  rw [document, read, Datum.fields_of_record]
  simp [Fields.optional, Fields.once, Fields.checkSound, params, returns, bind, Except.bind, pure, Except.pure]

theorem document_within (sig : Signature) (room : Nat) : sig.document.Within (room + 3) := by
  have params := within_items_map ParamKind.document (room + 1) sig.params fun kind _ => kind.document_within room
  have returns := within_items_map ReturnKind.document (room + 1) sig.returns fun kind _ => kind.document_within room
  exact ⟨params, returns, trivial⟩

end Signature

namespace Callable

theorem read_document (reading : Reading) (callable : Callable) :
    read reading (.ofDocument callable.document) = .ok callable := by
  cases callable with
  | function sig => exact congrArg (Except.map function) (sig.read_document reading)
  | value typeName => cases reading <;> rfl

theorem document_within (callable : Callable) (room : Nat) : callable.document.Within (room + 4) := by
  cases callable with
  | function sig => exact ⟨sig.document_within room, trivial⟩
  | value typeName => exact ⟨⟨trivial, trivial⟩, trivial⟩

end Callable

namespace Descriptor

theorem read_methods_document (reading : Reading) (d : Descriptor) :
    readMethods reading (.ofDocument d.documentOfMethods) = .ok d := by
  have taken : Datum.ofDocument d.documentOfMethods =
      .table (d.methods.map fun member => (.text member.1, .ofDocument member.2.document)) := by
    rw [documentOfMethods, Datum.ofDocument, Datum.of_fields_map, List.map_map]
    rfl
  have each (member : String × Callable) : (do
      let name ← Readable.text (Datum.text member.1)
      let callable ← Callable.read reading (.ofDocument member.2.document)
      return (name, callable)) = .ok member := by
    rw [Callable.read_document]
    rfl
  rw [taken, readMethods, mapM_map_same _ _ d.methods fun member _ => each member]
  exact congrArg Except.ok d.of_list_methods

theorem document_within (d : Descriptor) (room : Nat) : d.documentOfMethods.Within (room + 5) :=
  within_fields_map _ (room + 4) d.methods fun member _ => member.2.document_within room

end Descriptor

namespace Resource

variable {ν : Type} [Bufferable ν]

def Offered (resource : Resource) (v : ν) : Prop :=
  ∃ name methods : ν, Bufferable.entries? v = some [("name", name), ("methods", methods)] ∧
    Readable.text? name = some resource.name ∧
    Bufferable.datum? methods = some (.ofDocument resource.descriptor.documentOfMethods)

theorem read_offered (resource : Resource) (v : ν) (offered : resource.Offered v) : read v = .ok resource := by
  obtain ⟨name, methods, entries, named, taken⟩ := offered
  have descriptor := resource.descriptor.read_methods_document .lenient
  simp [read, entries, named, taken, descriptor, ReadFault.require, Fields.required, Fields.optional, Fields.once,
    Readable.text, bind, Except.bind, pure, Except.pure]

end Resource

end ResourceRoutes
