import OpcUa.Proofs.Encoding.Translation
import OpcUa.Proofs.Structure.Lookup
import OpcUa.Structure.Declared

/-!
# Ids of registered types

A value is tagged with an id of its type's encoding: a local one, which is to be had where the table
has the namespace of the type, or an expanded one. Where no id belongs to two types, either leads
back to the type, whatever the indices are.
-/

namespace OpcUa

open StructureFamily

namespace NamespaceTable

variable {t : NamespaceTable} {uri : String} {identifier : Identifier}

theorem nodeId_of_not_mem (absent : uri ∉ t.uris) :
    t.nodeId uri identifier = .error (.namespaceUnknown uri) := by
  unfold nodeId
  cases found : t.indexOf? uri with
  | none => rfl
  | some index =>
    have known := uri?_of_indexOf? found
    exact absurd (List.mem_of_getElem? known) absent

end NamespaceTable

namespace EncoderContext

variable {κ : Type} {c : EncoderContext κ} {d : TypeDescriptor} {encoding : BodyEncoding}

theorem encodingNodeId_eq :
    c.encodingNodeId d encoding =
      c.namespaces.nodeId d.namespaceUri (d.encodingId encoding).identifier := by
  cases encoding <;> rfl

theorem qualify_encodingExpandedId (table : NamespaceTable) (d : TypeDescriptor)
    (encoding : BodyEncoding) :
    table.qualify (c.encodingExpandedId d encoding) = .ok (d.encodingId encoding) := by
  cases encoding <;> rfl

/-- The expanded id of an encoding is localized to the local one. -/
theorem toNodeId_encodingExpandedId :
    c.toNodeId (c.encodingExpandedId d encoding) =
      (c.encodingNodeId d encoding).mapError fun _ => .namespaceIndexMissing := by
  have localized : c.namespaces.localize (c.encodingExpandedId d encoding) =
      c.encodingNodeId d encoding := rfl
  rw [toNodeId, localized]
  cases c.encodingNodeId d encoding <;> rfl

variable [StructureFamily κ]

theorem typeOf?_of_encodingNodeId {id : NodeId} (placed : c.encodingNodeId d encoding = .ok id) :
    c.typeOf? id = (c.registry.lookup? (d.encodingId encoding)).map descriptor := by
  rw [encodingNodeId_eq] at placed
  obtain ⟨found, same⟩ := NamespaceTable.nodeId_eq_ok_iff.mp placed
  have whole : (⟨d.namespaceUri, id.identifier⟩ : QualifiedId) = d.encodingId encoding := by
    rw [same]
    cases encoding <;> rfl
  rw [typeOf?, NamespaceTable.uri?_of_indexOf? found, ← whole]
  rfl

/-- Where no id belongs to two types, a type is found by its own id and those of its encodings and
by no other, in whatever order the types were registered. The local id of an encoding is to be had
just when the table has the namespace; then it stands for the type, and the expanded id is
localized to it. Without the namespace neither succeeds, but the expanded id still means the type. -/
theorem ids_of_registered {uris : List String} (grown : NamespaceTable.Grown uris c.namespaces)
    (unambiguous : TypeRegistry.Unambiguous c.registry.registered) :
    (∀ id d, (c.registry.lookup? id).map descriptor = some d ↔
      (∃ k ∈ c.registry.registered, descriptor k = d) ∧
        (id = d.dataTypeId ∨ id = d.encodingId .binary ∨ id = d.encodingId .xml)) ∧
    (∀ others : List κ, others.Perm c.registry.registered → ∀ id,
      (TypeRegistry.lookup? ⟨others⟩ id).map descriptor =
        (c.registry.lookup? id).map descriptor) ∧
    ∀ k ∈ c.registry.registered, ∀ encoding,
      ((∃ id, c.encodingNodeId (descriptor k) encoding = .ok id) ↔
        (descriptor k).namespaceUri ∈ c.namespaces.uris) ∧
      (∀ id, c.encodingNodeId (descriptor k) encoding = .ok id →
        c.typeOf? id = some (descriptor k) ∧
          c.toNodeId (c.encodingExpandedId (descriptor k) encoding) = .ok id) ∧
      ((descriptor k).namespaceUri ∉ c.namespaces.uris →
        (∃ fault, c.encodingNodeId (descriptor k) encoding = .error fault ∧
          fault.kind = .unresolvedNamespace) ∧
        ∃ fault, c.toNodeId (c.encodingExpandedId (descriptor k) encoding) = .error fault ∧
          fault.kind = .encoding) ∧
      ∃ id, c.namespaces.qualify (c.encodingExpandedId (descriptor k) encoding) = .ok id ∧
        (c.registry.lookup? id).map descriptor = some (descriptor k) := by
  have among (d : TypeDescriptor) (id : QualifiedId) : id ∈ d.ids ↔
      id = d.dataTypeId ∨ id = d.encodingId .binary ∨ id = d.encodingId .xml := by
    simp only [TypeDescriptor.ids, List.mem_cons, List.not_mem_nil, or_false]
  refine ⟨fun id d => ?_, fun others permuted id => unambiguous.lookup?_perm permuted id,
    fun k member encoding => ?_⟩
  · rw [← among]
    exact unambiguous.lookup?_iff
  have found : (c.registry.lookup? ((descriptor k).encodingId encoding)).map descriptor =
      some (descriptor k) := by
    refine unambiguous.lookup?_iff.mpr ⟨⟨k, member, rfl⟩, (among _ _).mpr ?_⟩
    cases encoding <;> simp
  refine ⟨?_, fun id placed => ⟨?_, ?_⟩, fun absent => ⟨?_, ?_⟩, ?_⟩
  · rw [encodingNodeId_eq]
    exact NamespaceTable.exists_nodeId_iff grown.size_le
  · rw [typeOf?_of_encodingNodeId placed, found]
  · rw [toNodeId_encodingExpandedId, placed]
    rfl
  · exact ⟨_, encodingNodeId_eq.trans (NamespaceTable.nodeId_of_not_mem absent), rfl⟩
  · rw [toNodeId_encodingExpandedId, encodingNodeId_eq, NamespaceTable.nodeId_of_not_mem absent]
    exact ⟨_, rfl, rfl⟩
  · exact ⟨_, qualify_encodingExpandedId _ _ _, found⟩

def gauge (namespaceUri : String) : StructureDeclaration where
  descriptor := {
    name := "Gauge", namespaceUri, dataType := 20, binaryEncoding := 21, xmlEncoding := 22 }
  fields := []

/-- Two types with equal numbers in namespaces of their own, of which the table has one. -/
def gauges : EncoderContext StructureDeclaration where
  namespaces := ⟨[NamespaceTable.baseUri, "urn:line", "urn:plant"]⟩
  registry := ⟨[gauge "urn:mill", gauge "urn:plant"]⟩

theorem ids_of_gauges :
    NamespaceTable.Grown ["urn:line", "urn:plant"] gauges.namespaces ∧
      TypeRegistry.Unambiguous gauges.registry.registered ∧
      gauges.typeOf? ⟨2, .numeric 22⟩ = some (gauge "urn:plant").descriptor ∧
      gauges.toNodeId (gauges.encodingExpandedId (gauge "urn:plant").descriptor .xml) =
        .ok ⟨2, .numeric 22⟩ ∧
      ∃ fault, gauges.encodingNodeId (gauge "urn:mill").descriptor .binary = .error fault ∧
        fault.kind = .unresolvedNamespace := by
  have grown : NamespaceTable.Grown ["urn:line", "urn:plant"] gauges.namespaces := .list rfl
  have unambiguous : TypeRegistry.Unambiguous gauges.registry.registered :=
    TypeRegistry.unambiguous_of_nodup (by decide)
  obtain ⟨-, -, each⟩ := ids_of_registered grown unambiguous
  obtain ⟨-, leads, -, -⟩ := each (gauge "urn:plant") (by decide) .xml
  obtain ⟨-, -, lacks, -⟩ := each (gauge "urn:mill") (by decide) .binary
  obtain ⟨stands, localizes⟩ := leads ⟨2, .numeric 22⟩ rfl
  exact ⟨grown, unambiguous, stands, localizes, (lacks (by decide)).1⟩

end EncoderContext

end OpcUa
