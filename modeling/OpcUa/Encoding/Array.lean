import OpcUa.Encoding.Envelope

/-!
# Decoded arrays

An array of envelopes is decoded item by item and then typed, if all its values are instances of
the narrowest of their types.
-/

namespace OpcUa

open StructureFamily

variable {κ : Type} [StructureFamily κ]

/-- Items are absent where the envelope was, or where it held no value that could be decoded. -/
structure DecodedArray (κ : Type) [StructureFamily κ] where
  /-- The type that every value is an instance of; none in a general array. -/
  elementType : Option TypeDescriptor
  items : List (Option (Structure κ))

namespace DecodedArray

def size (a : DecodedArray κ) : Nat :=
  a.items.length

def isTyped (a : DecodedArray κ) : Bool :=
  a.elementType.isSome

def get? (a : DecodedArray κ) (index : Nat) : Option (Structure κ) :=
  (a.items[index]?).join

/-- The values that are there. -/
def values (a : DecodedArray κ) : List (Structure κ) :=
  a.items.filterMap fun item => item

instance [DecidableEq κ] : DecidableEq (DecodedArray κ) := fun ⟨type, items⟩ ⟨type', items'⟩ =>
  decidable_of_iff (type = type' ∧ items = items') (by simp)

/-- The items as values of kind `k`, if that is the type of the array and of every value;
otherwise the array itself. -/
def intoTyped [DecidableEq κ] (k : κ) (a : DecodedArray κ) :
    Except (DecodedArray κ) (List (Option (Value k))) :=
  if a.elementType == some (descriptor k) && a.values.all (Structure.isOf k) then
    .ok (a.items.map fun item => item.bind (Structure.as? k))
  else .error a

end DecodedArray

namespace TypeRegistry

/-- The narrower of two types of which one is an ancestor of the other or both are the same. -/
def narrower? (r : TypeRegistry κ) (best found : TypeDescriptor) : Option TypeDescriptor :=
  if found = best || r.isSupertypeOf found best then some best
  else if r.isSupertypeOf best found then some found
  else none

/-- Takes one more type into account. -/
def narrow? (r : TypeRegistry κ) : Option TypeDescriptor → TypeDescriptor → Option TypeDescriptor
  | none, found => some found
  | some best, found => r.narrower? best found

/-- The narrowest of the types in the order in which they come; none if there are none, or if one
is unrelated to the narrowest before it. -/
def narrowest? (r : TypeRegistry κ) (types : List TypeDescriptor) : Option TypeDescriptor :=
  (types.foldlM (fun best found => (r.narrow? best found).map some) none).join

/-- The narrowest of the types if all of them are instances of it. -/
def elementType? (r : TypeRegistry κ) (types : List TypeDescriptor) : Option TypeDescriptor :=
  (r.narrowest? types).filter fun narrowest => types.all (r.isA · narrowest)

end TypeRegistry

namespace EncoderContext

/-- One item. What cannot be decoded becomes an absent item; what cannot be resolved is an
error. -/
def decodeItem (c : EncoderContext κ) (now : Instant) (sender : Option NamespaceTable) :
    Option (ExtensionObject κ) → Except Fault (Option (Structure κ))
  | none => .ok none
  | some o =>
    match o.decode c now sender with
    | .ok value => .ok value
    | .error fault => if fault.kind = .decoding then .ok none else .error fault

/-- The array of all items, whatever its length. -/
def decodeItems (c : EncoderContext κ) (now : Instant) (sender : Option NamespaceTable)
    (envelopes : List (Option (ExtensionObject κ))) : Except Fault (DecodedArray κ) := do
  let items ← envelopes.mapM (c.decodeItem now sender)
  let types := (items.filterMap fun item => item).map Structure.descriptor
  return { elementType := c.registry.elementType? types, items }

def decodeArray (c : EncoderContext κ) (now : Instant) (sender : Option NamespaceTable)
    (envelopes : List (Option (ExtensionObject κ))) : Except Fault (DecodedArray κ) :=
  if c.limits.arrayLength.toNat < envelopes.length then
    .error (.arrayTooLong envelopes.length c.limits.arrayLength.toNat)
  else c.decodeItems now sender envelopes

end EncoderContext

end OpcUa
