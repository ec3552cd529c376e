import OpcUa.Structure.Registry

/-!
# Encoder contexts

The tables, the types and the limits that values are encoded and decoded by.
-/

namespace OpcUa

open StructureFamily

/-- Sizes are in bytes. -/
structure EncodingLimits where
  messageSize : UInt32
  stringLength : UInt32
  byteStringLength : UInt32
  arrayLength : UInt32
  deriving DecidableEq, Repr

def EncodingLimits.ofConfiguration (c : EndpointConfiguration) : EncodingLimits where
  messageSize := c.maxMessageSize
  stringLength := c.maxStringLength
  byteStringLength := c.maxByteStringLength
  arrayLength := c.maxArrayLength

structure EncoderContext (κ : Type) where
  namespaces : NamespaceTable := .base
  servers : ServerTable := {}
  registry : TypeRegistry κ
  limits : EncodingLimits := .ofConfiguration {}

namespace EncoderContext

variable {κ : Type} [StructureFamily κ]

/-- The base namespace with the standard types and limits. -/
def standard (embed : StandardKind → κ) : EncoderContext κ where
  registry := .standard embed

def withLimits (c : EncoderContext κ) (limits : EndpointConfiguration) : EncoderContext κ :=
  { c with limits := .ofConfiguration limits }

/-- The local id that a value of the type is tagged with. -/
def encodingNodeId (c : EncoderContext κ) (d : TypeDescriptor) (encoding : BodyEncoding) :
    Except Fault NodeId :=
  let id := d.encodingId encoding
  c.namespaces.nodeId id.namespaceUri id.identifier

/-- The id that a value of the type is tagged with when it leaves the context. It names its
namespace by URI, and by index too where the context has one. -/
def encodingExpandedId (c : EncoderContext κ) (d : TypeDescriptor) (encoding : BodyEncoding) :
    ExpandedNodeId :=
  let id := d.encodingId encoding
  { namespaceUri := some id.namespaceUri
    namespaceIndex := (c.namespaces.indexOf? d.namespaceUri).getD 0
    identifier := id.identifier }

/-- The type that a local id stands for. -/
def typeOf? (c : EncoderContext κ) (id : NodeId) : Option TypeDescriptor := do
  let uri ← c.namespaces.uri? id.namespaceIndex
  (c.registry.lookup? ⟨uri, id.identifier⟩).map descriptor

/-- The local id of an expanded one. -/
def toNodeId (c : EncoderContext κ) (id : ExpandedNodeId) : Except Fault NodeId :=
  match c.namespaces.localize id with
  | .ok id => .ok id
  | .error _ => .error .namespaceIndexMissing

end EncoderContext

end OpcUa
