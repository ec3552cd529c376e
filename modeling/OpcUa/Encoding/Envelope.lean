import OpcUa.Encoding.Context
import OpcUa.Json.Printer

/-!
# Envelopes

An extension object is an envelope around a structure: the id of the encoding and a body, which is
decoded only where its type is known.
-/

namespace OpcUa

open StructureFamily

inductive ExtensionBody (κ : Type) [StructureFamily κ] where
  | empty
  | encoded (bytes : List UInt8)
  | decoded (value : Structure κ)

structure ExtensionObject (κ : Type) [StructureFamily κ] where
  typeId : ExpandedNodeId
  body : ExtensionBody κ

namespace ExtensionObject

variable {κ : Type} [StructureFamily κ]

def isEmpty (o : ExtensionObject κ) : Bool :=
  match o.body with
  | .empty => true
  | _ => false

/-- An envelope around a value that stays as it is. -/
def ofStructure (c : EncoderContext κ) (value : Structure κ) : ExtensionObject κ where
  typeId := c.encodingExpandedId value.descriptor .binary
  body := .decoded value

/-- An envelope around the encoded value, unless it takes more bytes than a message may. -/
def encode (c : EncoderContext κ) (value : Structure κ) : Except Fault (ExtensionObject κ) :=
  let body := value.toJson.bytes
  if c.limits.messageSize.toNat < body.length then
    .error (.bodyTooLarge value.descriptor.name body.length c.limits.messageSize.toNat)
  else .ok ⟨c.encodingExpandedId value.descriptor .binary, .encoded body⟩

/-- The value inside, if there is a body and its type is registered. Ids are resolved by the table
of the sender where one is given. -/
def decode (c : EncoderContext κ) (now : Instant) (sender : Option NamespaceTable)
    (o : ExtensionObject κ) : Except Fault (Option (Structure κ)) :=
  match o.body with
  | .empty => .ok none
  | .decoded value => .ok (some value)
  | .encoded bytes =>
    if c.limits.byteStringLength.toNat < bytes.length then
      .error (.bodyOverLimit bytes.length c.limits.byteStringLength.toNat)
    else
      match (sender.getD c.namespaces).qualify o.typeId with
      | .error fault => .error fault
      | .ok id =>
        match c.registry.lookup? id with
        | none => .ok none
        | some k => (decodeBody now k bytes).map some

/-- The value inside, which must be of kind `k`. -/
def decodeAs [DecidableEq κ] (c : EncoderContext κ) (now : Instant) (k : κ)
    (o : ExtensionObject κ) : Except Fault (Value k) :=
  match o.decode c now none with
  | .error fault => .error fault
  | .ok none => .error (.valueMissing o.typeId.toText)
  | .ok (some found) =>
    match found.as? k with
    | some value => .ok value
    | none => .error (.typeMismatch (descriptor k).name found.descriptor.name)

/-- The bytes of the body. A value that stayed as it is has its members put in order. -/
def bodyBytes? (o : ExtensionObject κ) : Option (List UInt8) :=
  match o.body with
  | .empty => none
  | .encoded bytes => some bytes
  | .decoded value => some value.toJson.sorted.bytes

def toJson (o : ExtensionObject κ) : Json :=
  .object (("type_id", o.typeId.toJson) :: Json.present "body" .ofBytes o.bodyBytes?)

def ofJson? (value : Json) : Option (ExtensionObject κ) := do
  let [id, body] ← value.fields? ["type_id", "body"] | none
  return {
    typeId := ← Json.required ExpandedNodeId.ofJson? id
    body := match ← Json.optional Json.asBytes? body with
      | some bytes => .encoded bytes
      | none => .empty }

instance : JsonForm (ExtensionObject κ) where
  toJson := toJson
  ofJson? _ := ofJson?

end ExtensionObject

end OpcUa
