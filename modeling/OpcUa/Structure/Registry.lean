import OpcUa.Structure.Standard

/-!
# Type registries

The structure types that a decoder knows, in the order of their registration. A type is found by
its own id and by the ids of its encodings; of several registrations under one id the last counts.
Supertypes are found by following the ids that types name, also through types that are not
registered, until an id comes up again.
-/

namespace OpcUa

open StructureFamily

structure TypeRegistry (κ : Type) where
  registered : List κ

namespace TypeRegistry

variable {κ : Type} [StructureFamily κ]

def empty : TypeRegistry κ :=
  ⟨[]⟩

def register (r : TypeRegistry κ) (k : κ) : TypeRegistry κ :=
  ⟨r.registered ++ [k]⟩

/-- The base namespace, in a family that may hold more. -/
def standard (embed : StandardKind → κ) : TypeRegistry κ :=
  ⟨StandardKind.all.map embed⟩

/-- The type with that id of its own. -/
def typeAt? (r : TypeRegistry κ) (id : QualifiedId) : Option κ :=
  r.registered.reverse.find? fun k => (descriptor k).dataTypeId == id

/-- The type id that an encoding belongs to, by the last registration that names the encoding. -/
def encodedType? (r : TypeRegistry κ) (id : QualifiedId) : Option QualifiedId :=
  (r.registered.reverse.find? fun k => (descriptor k).encodes id).map fun k =>
    (descriptor k).dataTypeId

/-- The type with that id, of its own or of one of its encodings. -/
def lookup? (r : TypeRegistry κ) (id : QualifiedId) : Option κ :=
  match r.typeAt? id with
  | some k => some k
  | none => (r.encodedType? id).bind r.typeAt?

/-- The id of the supertype that the type with this id names. -/
def parent? (r : TypeRegistry κ) (id : QualifiedId) : Option QualifiedId :=
  (r.typeAt? id).bind fun k => (descriptor k).supertypeId

/-- Adds `next` and what stands above it to the ids `above` that have been passed on the way up
from `id`, and stops where the way meets itself. Every step but the last passes a registered id,
each one once. -/
def climb (r : TypeRegistry κ) (id : QualifiedId) :
    Nat → List QualifiedId → Option QualifiedId → List QualifiedId
  | 0, above, _ => above
  | _, above, none => above
  | steps + 1, above, some next =>
    if above.contains next then above
    else if next = id then next :: above
    else climb r id steps (next :: above) (r.parent? next)

/-- The ids of the strict ancestors of the type with this id. -/
def ancestors (r : TypeRegistry κ) (id : QualifiedId) : List QualifiedId :=
  r.climb id (r.registered.length + 1) [] (r.parent? id)

/-- Whether `upper` is a strict ancestor of `lower`. -/
def isSupertypeOf (r : TypeRegistry κ) (upper lower : TypeDescriptor) : Bool :=
  (r.ancestors lower.dataTypeId).contains upper.dataTypeId

/-- Whether `type` is `target` or one of its subtypes. -/
def isA (r : TypeRegistry κ) (type target : TypeDescriptor) : Bool :=
  type == target || r.isSupertypeOf target type

/-- The types that count, each id once. -/
def types (r : TypeRegistry κ) : List κ :=
  ((r.registered.map fun k => (descriptor k).dataTypeId).eraseDups).filterMap r.typeAt?

def size (r : TypeRegistry κ) : Nat :=
  r.types.length

end TypeRegistry

end OpcUa
