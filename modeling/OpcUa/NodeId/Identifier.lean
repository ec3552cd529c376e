import OpcUa.Base64
import OpcUa.Guid
import OpcUa.Json.Form
import OpcUa.Fault
import OpcUa.Text.Blank

/-!
# Identifiers

What names a node within its namespace: a number, a text, a guid or a byte string. The text form is
a letter for the sort, an equals sign and the value.
-/

namespace OpcUa

inductive Identifier where
  | numeric (value : UInt32)
  | text (value : String)
  | guid (value : Guid)
  | bytes (value : List UInt8)
  deriving DecidableEq, Repr

namespace Identifier

def toText : Identifier → String
  | .numeric n => "i=" ++ toString n.toNat
  | .text t => "s=" ++ t
  | .guid g => "g=" ++ g.text
  | .bytes b => "b=" ++ Base64.encode b

/-- The identifier of one sort from the text of its value. -/
def ofValue (sort value : List Char) : Except Fault Identifier :=
  let text := String.ofList value
  if sort = ['i'] then
    match Decimal.read UInt32.size value with
    | .ok n => .ok (.numeric (UInt32.ofNat n))
    | .error cause => .error (.numericIdentifier text cause)
  else if sort = ['s'] then .ok (.text text)
  else if sort = ['g'] then
    match Guid.read? text with
    | some g => .ok (.guid g)
    | none => .error (.guidIdentifier text)
  else if sort = ['b'] then
    match Base64.decode? text with
    | some b => .ok (.bytes b)
    | none => .error (.opaqueIdentifier text)
  else .error (.identifierTypeUnknown (String.ofList sort))

def ofChars (text : List Char) : Except Fault Identifier :=
  match Text.splitAtFirst '=' text with
  | some (sort, value) => ofValue sort value
  | none => .error (.identifierMalformed (String.ofList text))

def ofText (text : String) : Except Fault Identifier :=
  ofChars text.toList

/-- Numbers come before texts, texts before guids and guids before byte strings. -/
def rank : Identifier → Nat
  | .numeric _ => 0
  | .text _ => 1
  | .guid _ => 2
  | .bytes _ => 3

def order : Identifier → Identifier → Ordering
  | .numeric a, .numeric b => compare a b
  | .text a, .text b => compare a b
  | .guid a, .guid b => compare a.value.toNat b.value.toNat
  | .bytes a, .bytes b => compare a b
  | a, b => compare a.rank b.rank

/-! ### JSON -/

def toJson : Identifier → Json
  | .numeric n => .object [("numeric", .ofNat n.toNat)]
  | .text t => .object [("string", .text t)]
  | .guid g => .object [("guid", .text g.text)]
  | .bytes b => .object [("opaque", .list (b.map fun x => .ofNat x.toNat))]

def ofJson? (value : Json) : Option Identifier :=
  match value.choice? with
  | some (sort, some v) =>
    if sort = "numeric" then v.asUInt32?.map .numeric
    else if sort = "string" then v.asText?.map .text
    else if sort = "guid" then (v.asText?.bind Guid.read?).map .guid
    else if sort = "opaque" then (v.asList? Json.asUInt8?).map .bytes
    else none
  | _ => none

instance : JsonForm Identifier where
  toJson := toJson
  ofJson? _ := ofJson?

instance : ToString Identifier :=
  ⟨toText⟩

end Identifier

end OpcUa
