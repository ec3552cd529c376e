import OpcUa.NodeId.Basic

/-!
# Namespace and server tables

A namespace table gives each namespace URI an index, which stands for it in node ids. The base
namespace has index 0. A server table does the same for servers, the local one at index 0.
-/

namespace OpcUa

structure NamespaceTable where
  uris : List String
  deriving DecidableEq, Repr

namespace NamespaceTable

def baseUri : String := "http://opcfoundation.org/UA/"

/-- Indices are 16-bit words. -/
def capacity : Nat := UInt16.size

/-- The base namespace alone. -/
def base : NamespaceTable :=
  ⟨[baseUri]⟩

def size (t : NamespaceTable) : Nat :=
  t.uris.length

/-- The first index that holds the URI. -/
def indexOf? (t : NamespaceTable) (uri : String) : Option UInt16 :=
  match t.uris.findIdx? (· == uri) with
  | some i => if i < capacity then some (UInt16.ofNat i) else none
  | none => none

def uri? (t : NamespaceTable) (index : UInt16) : Option String :=
  t.uris[index.toNat]?

/-- A new entry at the end, and its index. -/
def append (t : NamespaceTable) (uri : String) : Except Fault (NamespaceTable × UInt16) :=
  if t.size < capacity then .ok (⟨t.uris ++ [uri]⟩, UInt16.ofNat t.size)
  else .error (.namespaceTableFull uri)

/-- The index of the URI, in a new entry only if it has none. -/
def add (t : NamespaceTable) (uri : String) : Except Fault (NamespaceTable × UInt16) :=
  match t.indexOf? uri with
  | some index => .ok (t, index)
  | none => t.append uri

/-- The base namespace and then the given URIs, of which those before any other that name the base
namespace add nothing. -/
def ofUris (uris : List String) : Except Fault NamespaceTable :=
  let rest := uris.dropWhile (· == baseUri)
  match rest.drop (capacity - 1) with
  | [] => .ok ⟨baseUri :: rest⟩
  | uri :: _ => .error (.namespaceTableFull uri)

/-- The local id of an identifier in the namespace of that URI. -/
def nodeId (t : NamespaceTable) (uri : String) (identifier : Identifier) : Except Fault NodeId :=
  match t.indexOf? uri with
  | some index => .ok ⟨index, identifier⟩
  | none => .error (.namespaceUnknown uri)

def expand (t : NamespaceTable) (id : NodeId) : Except Fault ExpandedNodeId :=
  match t.uri? id.namespaceIndex with
  | some uri =>
    .ok {
      namespaceUri := some uri
      namespaceIndex := id.namespaceIndex
      identifier := id.identifier }
  | none => .error (.namespaceIndexUnknown id.namespaceIndex id.toText)

/-- The local id of an expanded one, which must name the local server and a namespace of the
table. -/
def localize (t : NamespaceTable) (id : ExpandedNodeId) : Except Fault NodeId :=
  if id.isLocal then
    match id.namespaceUri with
    | some uri => t.nodeId uri id.identifier
    | none =>
      match t.uri? id.namespaceIndex with
      | some _ => .ok ⟨id.namespaceIndex, id.identifier⟩
      | none => .error (.namespaceIndexUnknown id.namespaceIndex id.toText)
  else .error (.remoteServer id.toText id.serverIndex)

/-- What the id means without a table. -/
def qualify (t : NamespaceTable) (id : ExpandedNodeId) : Except Fault QualifiedId :=
  match id.namespaceUri with
  | some uri => .ok ⟨uri, id.identifier⟩
  | none =>
    match t.uri? id.namespaceIndex with
    | some uri => .ok ⟨uri, id.identifier⟩
    | none => .error (.namespaceIndexUnknown id.namespaceIndex id.toText)

def toJson (t : NamespaceTable) : Json :=
  .ofStrings t.uris

def ofJson? (value : Json) : Option NamespaceTable := do
  let uris ← value.asList? Json.asText?
  match ofUris uris with
  | .ok t => some t
  | .error _ => none

instance : JsonForm NamespaceTable where
  toJson := toJson
  ofJson? _ := ofJson?

end NamespaceTable

structure ServerTable where
  uris : List String := []
  deriving DecidableEq, Repr

namespace ServerTable

/-- Indices are 32-bit words. -/
def capacity : Nat := UInt32.size

def ofLocal (uri : String) : ServerTable :=
  ⟨[uri]⟩

def size (t : ServerTable) : Nat :=
  t.uris.length

def indexOf? (t : ServerTable) (uri : String) : Option UInt32 :=
  match t.uris.findIdx? (· == uri) with
  | some i => if i < capacity then some (UInt32.ofNat i) else none
  | none => none

def uri? (t : ServerTable) (index : UInt32) : Option String :=
  t.uris[index.toNat]?

/-- Puts the local server's URI at index 0. -/
def setLocal (t : ServerTable) (uri : String) : ServerTable :=
  ⟨uri :: t.uris.tail⟩

/-- The index of the URI, in a new entry only if it has none. -/
def add (t : ServerTable) (uri : String) : Except Fault (ServerTable × UInt32) :=
  match t.indexOf? uri with
  | some index => .ok (t, index)
  | none =>
    if t.size < capacity then .ok (⟨t.uris ++ [uri]⟩, UInt32.ofNat t.size)
    else .error (.serverTableFull uri)

def toJson (t : ServerTable) : Json :=
  .object [("uris", .ofStrings t.uris)]

def ofJson? (value : Json) : Option ServerTable := do
  let [uris] ← value.fields? ["uris"] | none
  return ⟨← Json.required (Json.asList? Json.asText?) uris⟩

instance : JsonForm ServerTable where
  toJson := toJson
  ofJson? _ := ofJson?

end ServerTable

end OpcUa
