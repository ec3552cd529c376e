import OpcUa.Json.Reader
import OpcUa.Structure.Descriptor
import OpcUa.Time.Instant

/-!
# Structure families

A family names the structure types that a program knows. A structure is a value of any one of them;
structures of different kinds are never equal. Two families side by side are a family.
-/

namespace OpcUa

class StructureFamily (κ : Type) where
  Value : κ → Type
  descriptor : κ → TypeDescriptor
  toJson (k : κ) : Value k → Json
  /-- Members that default to the present take it from `now`. -/
  ofJson? (now : Instant) (k : κ) : Json → Option (Value k)
  decEq (k : κ) : DecidableEq (Value k)

open StructureFamily

structure Structure (κ : Type) [StructureFamily κ] where
  kind : κ
  value : Value kind

namespace Structure

variable {κ : Type} [StructureFamily κ]

def descriptor (s : Structure κ) : TypeDescriptor :=
  StructureFamily.descriptor s.kind

def toJson (s : Structure κ) : Json :=
  StructureFamily.toJson s.kind s.value

/-- The structure with the name of its type. -/
def toNamedJson (s : Structure κ) : Json :=
  .object [("type", .text s.descriptor.name), ("value", s.toJson)]

/-- Reads a structure of one of the given kinds, which is named. -/
def ofNamedJson? (kinds : List κ) (now : Instant) (value : Json) : Option (Structure κ) := do
  let [type, value] ← value.fields? ["type", "value"] | none
  let name ← Json.required Json.asText? type
  let k ← kinds.find? fun k => (StructureFamily.descriptor k).name == name
  return ⟨k, ← StructureFamily.ofJson? now k (← value)⟩

variable [DecidableEq κ]

/-- The value, if the structure is of that kind. -/
def as? (k : κ) (s : Structure κ) : Option (Value k) :=
  if same : s.kind = k then some (same ▸ s.value) else none

def isOf (k : κ) (s : Structure κ) : Bool :=
  s.kind == k

instance : DecidableEq (Structure κ) := fun ⟨k, a⟩ ⟨l, b⟩ =>
  if same : k = l then by
    subst same
    letI := StructureFamily.decEq k
    exact decidable_of_iff (a = b) (by simp)
  else .isFalse fun equal => same (congrArg kind equal)

end Structure

/-- The structure of kind `k` that a body in JSON holds. -/
def decodeBody {κ : Type} [StructureFamily κ] (now : Instant) (k : κ) (body : List UInt8) :
    Except Fault (Structure κ) :=
  match (Json.parse? body).bind (ofJson? now k) with
  | some value => .ok ⟨k, value⟩
  | none => .error (.bodyUnreadable (descriptor k).name)

instance {κ μ : Type} [StructureFamily κ] [StructureFamily μ] : StructureFamily (κ ⊕ μ) where
  Value
    | .inl k => Value k
    | .inr m => Value m
  descriptor
    | .inl k => descriptor k
    | .inr m => descriptor m
  toJson
    | .inl k => toJson k
    | .inr m => toJson m
  ofJson? now
    | .inl k => ofJson? now k
    | .inr m => ofJson? now m
  decEq
    | .inl k => decEq k
    | .inr m => decEq m

end OpcUa
