import Mathlib.Data.List.Nodup
import Mathlib.Data.List.Pairwise
import OpcUa.Proofs.Structure.Supertypes

/-!
# Finding types

A type is found by its own id first, and then by the last encoding that has the id. Where no id
belongs to two types, each is found by all of its ids, whatever the order of registration.
-/

namespace OpcUa

open StructureFamily

/-- Its own id and those of its encodings. -/
def TypeDescriptor.ids (d : TypeDescriptor) : List QualifiedId :=
  [d.dataTypeId, d.encodingId .binary, d.encodingId .xml]

theorem TypeDescriptor.mem_ids {d : TypeDescriptor} {id : QualifiedId} :
    id ∈ d.ids ↔ d.dataTypeId = id ∨ d.encodes id = true := by
  simp only [ids, encodes, List.mem_cons, List.not_mem_nil, or_false, Bool.or_eq_true, beq_iff_eq]
  exact or_congr_left eq_comm

namespace TypeRegistry

variable {κ : Type} [StructureFamily κ] {registered : List κ} {id : QualifiedId} {k : κ}

theorem typeAt?_eq_none_iff :
    typeAt? ⟨registered⟩ id = none ↔ ∀ k ∈ registered, (descriptor k).dataTypeId ≠ id := by
  simp [typeAt?]

theorem lookup?_of_typeAt? (found : typeAt? ⟨registered⟩ id = some k) :
    lookup? ⟨registered⟩ id = some k := by
  rw [lookup?, found]

/-- The last type with that encoding. -/
def lastEncoding? (registered : List κ) (id : QualifiedId) : Option κ :=
  registered.reverse.find? fun k => (descriptor k).encodes id

theorem lastEncoding?_some (last : lastEncoding? registered id = some k) :
    k ∈ registered ∧ (descriptor k).encodes id = true := by
  unfold lastEncoding? at last
  have encodes := List.find?_some last
  exact ⟨List.mem_reverse.mp (List.mem_of_find?_eq_some last), encodes⟩

theorem lastEncoding?_eq_none_iff :
    lastEncoding? registered id = none ↔ ∀ k ∈ registered, (descriptor k).encodes id = false := by
  simp [lastEncoding?]

theorem lookup?_of_foreign (foreign : typeAt? ⟨registered⟩ id = none) :
    lookup? ⟨registered⟩ id = (lastEncoding? registered id).bind fun replaced =>
      typeAt? ⟨registered⟩ (descriptor replaced).dataTypeId := by
  rw [lookup?, foreign]
  exact Option.bind_map

/-- Whatever has an id among its ids, something is found by it. -/
theorem exists_lookup? (member : k ∈ registered) (among : id ∈ (descriptor k).ids) :
    ∃ found, lookup? ⟨registered⟩ id = some found := by
  rw [← Option.ne_none_iff_exists']
  intro unfound
  cases own : typeAt? ⟨registered⟩ id with
  | some other =>
    rw [lookup?_of_typeAt? own] at unfound
    cases unfound
  | none =>
    rw [lookup?_of_foreign own, Option.bind_eq_none_iff] at unfound
    have foreign := typeAt?_eq_none_iff.mp own k member
    have encodes := (TypeDescriptor.mem_ids.mp among).resolve_left foreign
    cases last : lastEncoding? registered id with
    | none =>
      rw [lastEncoding?_eq_none_iff.mp last k member] at encodes
      cases encodes
    | some other =>
      obtain ⟨there, -⟩ := lastEncoding?_some last
      exact typeAt?_eq_none_iff.mp (unfound other last) other there rfl

/-- What is found by an id is registered with the type id of a type that has the id. -/
theorem named_of_lookup? (found : lookup? ⟨registered⟩ id = some k) :
    k ∈ registered ∧ ∃ other ∈ registered, id ∈ (descriptor other).ids ∧
      (descriptor other).dataTypeId = (descriptor k).dataTypeId := by
  cases own : typeAt? ⟨registered⟩ id with
  | some other =>
    rw [lookup?_of_typeAt? own] at found
    cases found
    obtain ⟨member, same⟩ := typeAt?_some own
    exact ⟨member, k, member, TypeDescriptor.mem_ids.mpr (.inl same), rfl⟩
  | none =>
    rw [lookup?_of_foreign own] at found
    obtain ⟨other, last, there⟩ := Option.bind_eq_some_iff.mp found
    obtain ⟨member, same⟩ := typeAt?_some there
    obtain ⟨before, encodes⟩ := lastEncoding?_some last
    exact ⟨member, other, before, TypeDescriptor.mem_ids.mpr (.inr encodes), same.symm⟩

/-! ### Types without a common id -/

/-- No two of the types have an id in common. -/
def Unambiguous (registered : List κ) : Prop :=
  ∀ k ∈ registered, ∀ other ∈ registered, ∀ id ∈ (descriptor k).ids, id ∈ (descriptor other).ids →
    descriptor other = descriptor k

theorem unambiguous_of_nodup
    (distinct : (registered.flatMap fun k => (descriptor k).ids).Nodup) :
    Unambiguous registered := by
  intro k member other there id among again
  obtain ⟨-, apart⟩ := List.nodup_flatMap.mp distinct
  have symmetric : Std.Symm (Function.onFun List.Disjoint fun k : κ => (descriptor k).ids) :=
    ⟨fun _ _ => List.disjoint_symm⟩
  by_contra different
  have unequal : k ≠ other := fun same => different (congrArg descriptor same.symm)
  exact apart.forall member there unequal among again

theorem Unambiguous.mem_ids_of_lookup? (unambiguous : Unambiguous registered)
    (found : lookup? ⟨registered⟩ id = some k) : k ∈ registered ∧ id ∈ (descriptor k).ids := by
  obtain ⟨member, other, there, among, same⟩ := named_of_lookup? found
  have own : (descriptor k).dataTypeId ∈ (descriptor k).ids := List.mem_cons_self
  have shared : (descriptor k).dataTypeId ∈ (descriptor other).ids := same ▸ List.mem_cons_self
  rw [unambiguous other there k member _ shared own]
  exact ⟨member, among⟩

/-- A type is found by its ids and by no others. -/
theorem Unambiguous.lookup?_iff (unambiguous : Unambiguous registered) {d : TypeDescriptor} :
    (lookup? ⟨registered⟩ id).map descriptor = some d ↔
      (∃ k ∈ registered, descriptor k = d) ∧ id ∈ d.ids := by
  constructor
  · intro looked
    obtain ⟨k, found, rfl⟩ := Option.map_eq_some_iff.mp looked
    obtain ⟨member, among⟩ := unambiguous.mem_ids_of_lookup? found
    exact ⟨⟨k, member, rfl⟩, among⟩
  · rintro ⟨⟨k, member, rfl⟩, among⟩
    obtain ⟨other, found⟩ := exists_lookup? member among
    obtain ⟨there, again⟩ := unambiguous.mem_ids_of_lookup? found
    rw [found, Option.map_some, unambiguous k member other there id among again]

/-- The order in which types are registered does not matter. -/
theorem Unambiguous.lookup?_perm {others : List κ} (unambiguous : Unambiguous registered)
    (permuted : others.Perm registered) (id : QualifiedId) :
    (lookup? ⟨others⟩ id).map descriptor = (lookup? ⟨registered⟩ id).map descriptor := by
  have unambiguous' : Unambiguous others := fun k member other there =>
    unambiguous k (permuted.subset member) other (permuted.subset there)
  ext d
  rw [unambiguous'.lookup?_iff, unambiguous.lookup?_iff]
  simp only [permuted.mem_iff]

end TypeRegistry

end OpcUa
