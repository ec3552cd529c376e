import OpcUa.NodeId.Identifier

/-!
# Node ids

A node id names its namespace by an index that one table gives a meaning. An expanded node id can
name it by URI and can name a server as well. A qualified id names it by URI alone and so means the
same everywhere.
-/

namespace OpcUa

structure NodeId where
  namespaceIndex : UInt16
  identifier : Identifier
  deriving DecidableEq, Repr

structure ExpandedNodeId where
  /-- When given, the index counts for nothing. -/
  namespaceUri : Option String := none
  namespaceIndex : UInt16 := 0
  identifier : Identifier
  /-- Zero is the local server. -/
  serverIndex : UInt32 := 0
  deriving DecidableEq, Repr

structure QualifiedId where
  namespaceUri : String
  identifier : Identifier
  deriving DecidableEq, Repr

namespace NodeId

def null : NodeId :=
  ⟨0, .numeric 0⟩

def isNull (id : NodeId) : Bool :=
  id == null

def indexText (index : UInt16) : String :=
  if index = 0 then "" else "ns=" ++ toString index.toNat ++ ";"

/-- The index is left out when it is zero. -/
def toText (id : NodeId) : String :=
  indexText id.namespaceIndex ++ id.identifier.toText

/-- The node id whose text after `ns=` is given. -/
def ofIndexed (text : List Char) : Except Fault NodeId :=
  match Text.splitAtFirst ';' text with
  | none => .error (.nodeIdMalformed (String.ofList ('n' :: 's' :: '=' :: text)))
  | some (index, identifier) =>
    match Decimal.read UInt16.size index with
    | .error cause => .error (.namespaceIndexText (String.ofList index) cause)
    | .ok n => (Identifier.ofChars identifier).map fun i => ⟨UInt16.ofNat n, i⟩

def ofChars : List Char → Except Fault NodeId
  | 'n' :: 's' :: '=' :: rest => ofIndexed rest
  | text => (Identifier.ofChars text).map fun i => ⟨0, i⟩

def ofText (text : String) : Except Fault NodeId :=
  ofChars text.toList

def toJson (id : NodeId) : Json :=
  .object [("namespace_index", .ofNat id.namespaceIndex.toNat),
    ("identifier", id.identifier.toJson)]

def ofJson? (value : Json) : Option NodeId := do
  let [index, identifier] ← value.fields? ["namespace_index", "identifier"] | none
  return {
    namespaceIndex := ← Json.required Json.asUInt16? index
    identifier := ← Json.required Identifier.ofJson? identifier }

instance : JsonForm NodeId where
  toJson := toJson
  ofJson? _ := ofJson?

instance : ToString NodeId :=
  ⟨toText⟩

end NodeId

namespace ExpandedNodeId

def ofNodeId (id : NodeId) : ExpandedNodeId where
  namespaceIndex := id.namespaceIndex
  identifier := id.identifier

/-- A numeric id of the base namespace. -/
def base (value : UInt32) : ExpandedNodeId where
  identifier := .numeric value

def withUri (uri : String) (identifier : Identifier) : ExpandedNodeId where
  namespaceUri := some uri
  identifier := identifier

def isLocal (id : ExpandedNodeId) : Bool :=
  id.serverIndex == 0

def serverText (index : UInt32) : String :=
  if index = 0 then "" else "svr=" ++ toString index.toNat ++ ";"

def toText (id : ExpandedNodeId) : String :=
  serverText id.serverIndex ++
    (match id.namespaceUri with
    | some uri => "nsu=" ++ uri ++ ";"
    | none => NodeId.indexText id.namespaceIndex) ++ id.identifier.toText

def toJson (id : ExpandedNodeId) : Json :=
  .object (Json.present "namespace_uri" .text id.namespaceUri ++ [
    ("namespace_index", .ofNat id.namespaceIndex.toNat),
    ("identifier", id.identifier.toJson),
    ("server_index", .ofNat id.serverIndex.toNat)])

def ofJson? (value : Json) : Option ExpandedNodeId := do
  let [uri, index, identifier, server] ←
    value.fields? ["namespace_uri", "namespace_index", "identifier", "server_index"] | none
  return {
    namespaceUri := ← Json.optional Json.asText? uri
    namespaceIndex := ← Json.orElse 0 Json.asUInt16? index
    identifier := ← Json.required Identifier.ofJson? identifier
    serverIndex := ← Json.orElse 0 Json.asUInt32? server }

instance : JsonForm ExpandedNodeId where
  toJson := toJson
  ofJson? _ := ofJson?

instance : ToString ExpandedNodeId :=
  ⟨toText⟩

end ExpandedNodeId

namespace QualifiedId

def numeric (uri : String) (value : UInt32) : QualifiedId :=
  ⟨uri, .numeric value⟩

def toText (id : QualifiedId) : String :=
  "nsu=" ++ id.namespaceUri ++ ";" ++ id.identifier.toText

/-- By namespace first. -/
def order (a b : QualifiedId) : Ordering :=
  (compare a.namespaceUri b.namespaceUri).then (a.identifier.order b.identifier)

/-- The ids in order, each once. -/
def ordered (ids : List QualifiedId) : List QualifiedId :=
  (ids.mergeSort fun a b => (a.order b).isLE).eraseReps

end QualifiedId

end OpcUa
