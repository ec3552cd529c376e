import OpcUa.Namespace

/-!
# Type descriptors

What identifies a structure type: an id of its own, one for each encoding, and the id of its
supertype. All are numbers in one namespace.
-/

namespace OpcUa

inductive BodyEncoding where
  | binary
  | xml
  deriving DecidableEq, Repr

structure TypeDescriptor where
  name : String
  namespaceUri : String := NamespaceTable.baseUri
  dataType : UInt32
  binaryEncoding : UInt32
  xmlEncoding : UInt32
  supertype : Option UInt32 := none
  deriving DecidableEq, Repr

namespace TypeDescriptor

def dataTypeId (d : TypeDescriptor) : QualifiedId :=
  .numeric d.namespaceUri d.dataType

def encodingId (d : TypeDescriptor) : BodyEncoding → QualifiedId
  | .binary => .numeric d.namespaceUri d.binaryEncoding
  | .xml => .numeric d.namespaceUri d.xmlEncoding

def supertypeId (d : TypeDescriptor) : Option QualifiedId :=
  d.supertype.map (.numeric d.namespaceUri)

/-- Whether the id stands for one of the encodings. -/
def encodes (d : TypeDescriptor) (id : QualifiedId) : Bool :=
  id == d.encodingId .binary || id == d.encodingId .xml

end TypeDescriptor

end OpcUa
