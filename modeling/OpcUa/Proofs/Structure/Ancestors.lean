import Mathlib.Logic.Relation
import OpcUa.Structure.Registry

/-!
# Ancestors

The ancestors of a type are the ids that can be reached from it by one supertype after another, also
where the supertypes go round in a circle: the way up passes every registered id at most once, and
stops only where it meets itself or comes to an end.
-/

namespace OpcUa.TypeRegistry

open Relation StructureFamily

variable {κ : Type} [StructureFamily κ] {r : TypeRegistry κ} {id : QualifiedId}

/-- Whether the type with the first id names the second as its supertype. -/
def Names (r : TypeRegistry κ) (lower upper : QualifiedId) : Prop :=
  r.parent? lower = some upper

/-- Whether no type stands above itself. -/
def Acyclic (r : TypeRegistry κ) : Prop :=
  ∀ id, ¬ TransGen r.Names id id

/-- What holds on the way up from `id`, past the ids `above`, when `next` is the next to be seen. -/
structure Climbing (r : TypeRegistry κ) (id : QualifiedId) (above : List QualifiedId)
    (next : Option QualifiedId) : Prop where
  passed : ∀ upper ∈ above, TransGen r.Names id upper
  ahead : ∀ upper, next = some upper → TransGen r.Names id upper
  followed : ∀ lower ∈ id :: above, ∀ upper, r.Names lower upper → upper ∈ above ∨ next = some upper
  distinct : above.Nodup
  registered : next ≠ none → ∀ lower ∈ above, r.parent? lower ≠ none

theorem climbing_start (r : TypeRegistry κ) (id : QualifiedId) :
    Climbing r id [] (r.parent? id) where
  passed _ member := nomatch member
  ahead _ names := .single names
  followed lower member upper names := by
    cases List.mem_singleton.mp member
    exact .inr names
  distinct := .nil
  registered _ _ member := nomatch member

theorem Climbing.step {above : List QualifiedId} {next : QualifiedId}
    (climbing : Climbing r id above (some next)) (new : next ∉ above) :
    Climbing r id (next :: above) (r.parent? next) := by
  obtain ⟨passed, ahead, followed, distinct, registered⟩ := climbing
  refine ⟨?_, ?_, ?_, List.nodup_cons.mpr ⟨new, distinct⟩, ?_⟩
  · intro upper member
    rcases List.mem_cons.mp member with rfl | known
    · exact ahead upper rfl
    · exact passed upper known
  · intro upper names
    exact (ahead next rfl).tail names
  · intro lower member upper names
    have below (known : lower ∈ id :: above) : upper ∈ next :: above := by
      rcases followed lower known upper names with seen | same
      · exact List.mem_cons_of_mem _ seen
      · cases same
        exact List.mem_cons_self
    rcases List.mem_cons.mp member with rfl | member
    · exact .inl (below List.mem_cons_self)
    · rcases List.mem_cons.mp member with rfl | known
      · exact .inr names
      · exact .inl (below (List.mem_cons_of_mem _ known))
  · intro continues lower member
    rcases List.mem_cons.mp member with rfl | known
    · exact continues
    · exact registered (by simp) lower known

theorem typeAt?_some {k : κ} (found : r.typeAt? id = some k) :
    k ∈ r.registered ∧ (descriptor k).dataTypeId = id := by
  have matched := List.find?_some found
  exact ⟨List.mem_reverse.mp (List.mem_of_find?_eq_some found), by simpa using matched⟩

theorem mem_registered_of_names {lower upper : QualifiedId} (names : r.Names lower upper) :
    lower ∈ r.registered.map fun k => (descriptor k).dataTypeId := by
  obtain ⟨k, found, -⟩ := Option.bind_eq_some_iff.mp names
  obtain ⟨member, same⟩ := typeAt?_some found
  exact List.mem_map.mpr ⟨k, member, same⟩

/-- As long as the way goes on there are no more ids behind than registered types. -/
theorem Climbing.length_le {above : List QualifiedId} {next : QualifiedId}
    (climbing : Climbing r id above (some next)) : above.length ≤ r.registered.length := by
  have subset : above ⊆ r.registered.map fun k => (descriptor k).dataTypeId := by
    intro lower member
    obtain ⟨upper, names⟩ := Option.ne_none_iff_exists'.mp
      (climbing.registered (by simp) lower member)
    exact mem_registered_of_names names
  simpa using climbing.distinct.length_le_of_subset subset

/-- What the way up gathers is reached from below, and whatever an id on it names is on it too. -/
theorem Climbing.gathers {above : List QualifiedId} {next : Option QualifiedId}
    (climbing : Climbing r id above next) {steps : Nat}
    (enough : r.registered.length < steps + above.length) :
    (∀ upper ∈ r.climb id steps above next, TransGen r.Names id upper) ∧
      ∀ lower ∈ id :: r.climb id steps above next, ∀ upper, r.Names lower upper →
        upper ∈ r.climb id steps above next := by
  induction steps generalizing above next with
  | zero =>
    cases next with
    | none =>
      refine ⟨climbing.passed, fun lower member upper names => ?_⟩
      exact (climbing.followed lower member upper names).resolve_right (by simp)
    | some next =>
      have bound := climbing.length_le
      omega
  | succ steps ih =>
    cases next with
    | none =>
      refine ⟨climbing.passed, fun lower member upper names => ?_⟩
      exact (climbing.followed lower member upper names).resolve_right (by simp)
    | some next =>
      unfold climb
      split
      · -- The way has met itself.
        rename_i met
        have known : next ∈ above := by simpa using met
        refine ⟨climbing.passed, fun lower member upper names => ?_⟩
        rcases climbing.followed lower member upper names with seen | ⟨⟨⟩⟩
        · exact seen
        · exact known
      · rename_i unmet
        have new : next ∉ above := by simpa using unmet
        split
        · -- The way is back where it started.
          rename_i back
          subst back
          refine ⟨(climbing.step new).passed, fun lower member upper names => ?_⟩
          have member : lower ∈ next :: above := by simpa using member
          rcases climbing.followed lower member upper names with seen | ⟨⟨⟩⟩
          · exact List.mem_cons_of_mem _ seen
          · exact List.mem_cons_self
        · refine ih (climbing.step new) ?_
          rw [List.length_cons]
          omega

/-- The ancestors of a type are the ids that stand above it, one supertype after another. -/
theorem mem_ancestors {upper : QualifiedId} :
    upper ∈ r.ancestors id ↔ TransGen r.Names id upper := by
  obtain ⟨passed, followed⟩ := (climbing_start r id).gathers (Nat.lt_succ_self _)
  constructor
  · exact passed upper
  · intro above
    induction above with
    | single names => exact followed id List.mem_cons_self _ names
    | tail _ names ih => exact followed _ (List.mem_cons_of_mem _ ih) _ names

theorem isSupertypeOf_iff {upper lower : TypeDescriptor} :
    r.isSupertypeOf upper lower = true ↔ TransGen r.Names lower.dataTypeId upper.dataTypeId := by
  rw [isSupertypeOf, List.contains_iff_mem, mem_ancestors]

/-- A circle passes registered types only, so those are the only ones to look at. -/
theorem acyclic_iff :
    r.Acyclic ↔ ∀ k ∈ r.registered, r.isSupertypeOf (descriptor k) (descriptor k) = false := by
  simp only [Bool.eq_false_iff, ne_eq, isSupertypeOf_iff]
  constructor
  · intro acyclic k _
    exact acyclic _
  · intro strict id circle
    obtain ⟨next, names, -⟩ := TransGen.head'_iff.mp circle
    obtain ⟨k, member, rfl⟩ := List.mem_map.mp (mem_registered_of_names names)
    exact strict k member circle

theorem isA_iff {type target : TypeDescriptor} :
    r.isA type target = true ↔
      type = target ∨ TransGen r.Names type.dataTypeId target.dataTypeId := by
  rw [isA, Bool.or_eq_true, beq_iff_eq, isSupertypeOf_iff]

theorem isA_trans {low middle high : TypeDescriptor} (first : r.isA low middle = true)
    (second : r.isA middle high = true) : r.isA low high = true := by
  rw [isA_iff] at first second ⊢
  rcases first with rfl | first
  · exact second
  · rcases second with rfl | second
    · exact .inr first
    · exact .inr (first.trans second)

/-- Without circles, two types that are instances of each other are the same. -/
theorem Acyclic.isA_antisymm (acyclic : r.Acyclic) {first second : TypeDescriptor}
    (forth : r.isA first second = true) (back : r.isA second first = true) : first = second := by
  rw [isA_iff] at forth back
  rcases forth with same | forth
  · exact same
  · rcases back with same | back
    · exact same.symm
    · exact (acyclic _ (forth.trans back)).elim

end OpcUa.TypeRegistry
