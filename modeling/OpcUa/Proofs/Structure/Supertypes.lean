import Mathlib.Data.List.Nodup
import OpcUa.Proofs.Structure.Ancestors
import OpcUa.Structure.Declared

/-!
# Supertypes of registered types

The table of ancestors is filled by one walk for each registered id, and a walk goes on until the
way meets itself or comes to an end. Every walk ends, and whatever the order of the ids, one type
stands above another in the table just when it can be reached from it by supertypes, each taken from
the last type registered with an id.
-/

namespace OpcUa.TypeRegistry

open Relation StructureFamily

variable {κ : Type} [StructureFamily κ] {r : TypeRegistry κ} {id upper lower : QualifiedId}
  {above result : List QualifiedId} {next : Option QualifiedId}

/-! ### Links -/

/-- The type is the last one registered with that id. -/
def LastWith (registered : List κ) (id : QualifiedId) (k : κ) : Prop :=
  (descriptor k).dataTypeId = id ∧ ∃ before after, registered = before ++ k :: after ∧
    ∀ later ∈ after, (descriptor later).dataTypeId ≠ id

/-- The last type registered with the first id names the second as its supertype. -/
def Link (registered : List κ) (lower upper : QualifiedId) : Prop :=
  ∃ k, LastWith registered lower k ∧ (descriptor k).supertypeId = some upper

theorem find?_reverse_eq_some_iff {α : Type} {items : List α} {wanted : α → Bool} {item : α} :
    items.reverse.find? wanted = some item ↔ wanted item = true ∧
      ∃ before after, items = before ++ item :: after ∧ ∀ later ∈ after, wanted later = false := by
  rw [List.find?_eq_some_iff_append]
  refine and_congr_right fun _ => ⟨?_, ?_⟩
  · rintro ⟨after, before, placed, other⟩
    refine ⟨before.reverse, after.reverse, ?_, fun later member => ?_⟩
    · rw [← List.reverse_reverse items, placed]
      simp
    · simpa using other later (List.mem_reverse.mp member)
  · rintro ⟨before, after, placed, other⟩
    refine ⟨after.reverse, before.reverse, by simp [placed], fun later member => ?_⟩
    simpa using other later (List.mem_reverse.mp member)

theorem typeAt?_eq_some_iff {k : κ} : r.typeAt? id = some k ↔ LastWith r.registered id k := by
  rw [typeAt?, find?_reverse_eq_some_iff, beq_iff_eq, LastWith]
  simp only [beq_eq_false_iff_ne]

theorem names_iff : r.Names lower upper ↔ Link r.registered lower upper := by
  simp only [Names, parent?, Option.bind_eq_some_iff, typeAt?_eq_some_iff, Link]

/-! ### Walks -/

/-- A walk up from `id` that has passed the ids `above` and comes to `next`, to its end and whatever
number of steps that takes; what has been passed then is the result. -/
inductive Walks (r : TypeRegistry κ) (id : QualifiedId) :
    List QualifiedId → Option QualifiedId → List QualifiedId → Prop
  | ends {above : List QualifiedId} : Walks r id above none above
  | meets {above : List QualifiedId} {next : QualifiedId} (known : next ∈ above) :
      Walks r id above (some next) above
  | returns {above : List QualifiedId} (new : id ∉ above) :
      Walks r id above (some id) (id :: above)
  | climbs {above result : List QualifiedId} {next : QualifiedId} (new : next ∉ above)
      (other : next ≠ id) (rest : Walks r id (next :: above) (r.parent? next) result) :
      Walks r id above (some next) result

theorem Walks.unique {other : List QualifiedId} (walks : Walks r id above next result)
    (again : Walks r id above next other) : other = result := by
  induction walks with
  | ends => cases again; rfl
  | meets known =>
    cases again with
    | meets => rfl
    | returns new | climbs new => exact (new known).elim
  | returns new =>
    cases again with
    | meets known => exact (new known).elim
    | returns => rfl
    | climbs _ elsewhere => exact (elsewhere rfl).elim
  | climbs new elsewhere _ ih =>
    cases again with
    | meets known => exact (new known).elim
    | returns => exact (elsewhere rfl).elim
    | climbs _ _ rest => exact ih rest

/-- Walks end: with a step for every registered type they are not cut short. -/
theorem Climbing.walks (climbing : Climbing r id above next) {steps : Nat}
    (enough : r.registered.length < steps + above.length) :
    Walks r id above next (r.climb id steps above next) := by
  induction steps generalizing above next with
  | zero =>
    cases next with
    | none => exact .ends
    | some next =>
      have bound := climbing.length_le
      omega
  | succ steps ih =>
    cases next with
    | none => exact .ends
    | some next =>
      unfold climb
      split
      · rename_i met
        exact .meets (by simpa using met)
      · rename_i unmet
        have new : next ∉ above := by simpa using unmet
        split
        · rename_i back
          subst back
          exact .returns new
        · rename_i other
          refine .climbs new other (ih (climbing.step new) ?_)
          rw [List.length_cons]
          omega

theorem walks_ancestors (r : TypeRegistry κ) (id : QualifiedId) :
    Walks r id [] (r.parent? id) (r.ancestors id) :=
  (climbing_start r id).walks (Nat.lt_succ_self _)

/-! ### The table -/

/-- A table that is filled by walking up from each of the ids in turn, with what stands above it. -/
inductive Fills (r : TypeRegistry κ) :
    List QualifiedId → List (QualifiedId × List QualifiedId) → Prop
  | nil : Fills r [] []
  | cons {id : QualifiedId} {order above : List QualifiedId}
      {table : List (QualifiedId × List QualifiedId)} (walks : Walks r id [] (r.parent? id) above)
      (rest : Fills r order table) : Fills r (id :: order) ((id, above) :: table)

/-- These are the ids of the registered types, in whatever order. -/
def Lists (registered : List κ) (order : List QualifiedId) : Prop :=
  ∀ id, id ∈ order ↔ ∃ k ∈ registered, (descriptor k).dataTypeId = id

/-- The first type is entered above the second. -/
def EnteredAbove (table : List (QualifiedId × List QualifiedId)) (upper lower : TypeDescriptor) :
    Prop :=
  ∃ above, table.lookup lower.dataTypeId = some above ∧ upper.dataTypeId ∈ above

theorem fills_iff {order : List QualifiedId} {table : List (QualifiedId × List QualifiedId)} :
    Fills r order table ↔ table = order.map fun id => (id, r.ancestors id) := by
  constructor
  · intro fills
    induction fills with
    | nil => rfl
    | cons walks _ ih => rw [List.map_cons, ih, (walks_ancestors r _).unique walks]
  · rintro rfl
    induction order with
    | nil => exact .nil
    | cons id order ih => exact .cons (walks_ancestors r id) ih

theorem isSupertypeOf_iff_reaches {upper lower : TypeDescriptor} :
    r.isSupertypeOf upper lower = true ↔
      TransGen (Link r.registered) lower.dataTypeId upper.dataTypeId := by
  have links : r.Names = Link r.registered := by
    funext lower upper
    exact propext names_iff
  rw [isSupertypeOf_iff, links]

theorem isSupertypeOf_iff_link {upper lower : TypeDescriptor} :
    r.isSupertypeOf upper lower = true ↔
      (∃ k ∈ r.registered, (descriptor k).dataTypeId = lower.dataTypeId) ∧
        TransGen (Link r.registered) lower.dataTypeId upper.dataTypeId := by
  rw [isSupertypeOf_iff_reaches]
  refine ⟨fun reached => ⟨?_, reached⟩, And.right⟩
  obtain ⟨_, ⟨k, ⟨same, before, after, placed, -⟩, -⟩, -⟩ := TransGen.head'_iff.mp reached
  exact ⟨k, placed ▸ List.mem_append_right _ List.mem_cons_self, same⟩

theorem enteredAbove_iff {order : List QualifiedId} (lists : Lists r.registered order)
    (upper lower : TypeDescriptor) :
    EnteredAbove (order.map fun id => (id, r.ancestors id)) upper lower ↔
      r.isSupertypeOf upper lower = true := by
  unfold EnteredAbove
  by_cases known : lower.dataTypeId ∈ order
  · rw [List.lookup_graph _ known]
    simp [isSupertypeOf]
  · have absent : (order.map fun id => (id, r.ancestors id)).lookup lower.dataTypeId = none := by
      rw [List.lookup_eq_none_iff]
      simp only [List.forall_mem_map, bne_iff_ne]
      rintro id member rfl
      exact known member
    rw [absent, isSupertypeOf_iff_link, ← lists]
    simp [known]

/-- The table of ancestors is filled in whatever order the registered ids are taken, in one way
only. Above a registered type stands whatever is reached from its id by one supertype or more, each
named by the last type registered with an id, and above any other type stands nothing. -/
theorem supertypes_of_registered {registered : List κ} {order : List QualifiedId}
    (lists : Lists registered order) :
    ∃ table, Fills ⟨registered⟩ order table ∧
      (∀ other, Fills ⟨registered⟩ order other → other = table) ∧
      ∀ upper lower,
        (isSupertypeOf ⟨registered⟩ upper lower = true ↔ EnteredAbove table upper lower) ∧
        (EnteredAbove table upper lower ↔
          (∃ k ∈ registered, (descriptor k).dataTypeId = lower.dataTypeId) ∧
            TransGen (Link registered) lower.dataTypeId upper.dataTypeId) := by
  refine ⟨_, fills_iff.mpr rfl, fun other fills => fills_iff.mp fills, fun upper lower => ?_⟩
  have entered := enteredAbove_iff (r := ⟨registered⟩) lists upper lower
  exact ⟨entered.symm, entered.trans isSupertypeOf_iff_link⟩

/-- A type without fields. -/
def bare (dataType supertype : UInt32) : StructureDeclaration where
  descriptor := {
    name := "Bare", namespaceUri := "urn:plant", dataType, binaryEncoding := 0, xmlEncoding := 0,
    supertype := some supertype }
  fields := []

/-- Two types that stand above each other, one of them registered once more, and a type below them.
The first registration of type 2 names a supertype that is not registered, and does not count. -/
def circle : List StructureDeclaration :=
  [bare 1 2, bare 2 9, bare 3 1, bare 2 1]

theorem supertypes_of_circle :
    ∃ table, Fills ⟨circle⟩ [.numeric "urn:plant" 3, .numeric "urn:plant" 1,
        .numeric "urn:plant" 2] table ∧
      EnteredAbove table (bare 1 2).descriptor (bare 1 2).descriptor ∧
      TransGen (Link circle) (bare 3 1).descriptor.dataTypeId (bare 2 1).descriptor.dataTypeId ∧
      ¬ EnteredAbove table (bare 9 9).descriptor (bare 2 9).descriptor := by
  have lists : Lists circle
      [.numeric "urn:plant" 3, .numeric "urn:plant" 1, .numeric "urn:plant" 2] := by
    intro id
    simp only [List.mem_cons, List.not_mem_nil, or_false, circle, bare,
      TypeDescriptor.dataTypeId, descriptor, eq_comm, exists_eq_or_imp, ↓existsAndEq, true_and]
    tauto
  obtain ⟨table, fills, -, above⟩ := supertypes_of_registered lists
  refine ⟨table, fills, (above _ _).1.mp (by decide), ?_, fun entered => ?_⟩
  · have entered := (above (bare 2 1).descriptor (bare 3 1).descriptor).1.mp (by decide)
    exact ((above _ _).2.mp entered).2
  · have found := (above _ _).1.mpr entered
    revert found
    decide

end OpcUa.TypeRegistry
