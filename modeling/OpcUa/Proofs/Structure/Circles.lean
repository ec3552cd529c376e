import Mathlib.Data.List.Chain
import Mathlib.Order.Defs.Unbundled
import OpcUa.Proofs.Structure.Supertypes

/-!
# Circles of supertypes

Nothing keeps types from being registered whose supertypes go round in a circle. On a circle every
type stands above itself, and any two stand above each other; elsewhere no type does either. So types
are partly ordered by what stands above them just when there is no circle among them.
-/

namespace OpcUa.TypeRegistry

open Relation StructureFamily

variable {κ : Type} [StructureFamily κ] {registered : List κ}

/-- Each id names the next as its supertype, and the last one names the first. -/
def Circle (registered : List κ) : List QualifiedId → Prop
  | [] => False
  | first :: rest => (first :: rest ++ [first]).IsChain (Link registered)

/-- Whether each type stands above others in a strict order. -/
def Strict (registered : List κ) : Prop :=
  IsStrictOrder TypeDescriptor fun lower upper => isSupertypeOf ⟨registered⟩ upper lower = true

/-! ### Ways from one id to another -/

theorem transGen_of_isChain {α : Type} {r : α → α → Prop} {start stop : α} {between : List α}
    (chain : (start :: between ++ [stop]).IsChain r) : TransGen r start stop := by
  induction between generalizing start with
  | nil =>
    have step := (List.isChain_cons_cons.mp chain).1
    exact .single step
  | cons next between ih =>
    obtain ⟨step, onward⟩ := List.isChain_cons_cons.mp chain
    exact (ih onward).head step

theorem exists_isChain_of_transGen {α : Type} {r : α → α → Prop} {start stop : α}
    (way : TransGen r start stop) : ∃ between, (start :: between ++ [stop]).IsChain r := by
  induction way using TransGen.head_induction_on with
  | single step => exact ⟨[], List.isChain_pair.mpr step⟩
  | head step _ ih =>
    obtain ⟨between, onward⟩ := ih
    exact ⟨_ :: between, List.isChain_cons_cons.mpr ⟨step, onward⟩⟩

/-- On a circle, every id can be reached from every id. -/
theorem Circle.reaches {ids : List QualifiedId} (circle : Circle registered ids)
    {lower upper : QualifiedId} (onLower : lower ∈ ids) (onUpper : upper ∈ ids) :
    TransGen (Link registered) lower upper := by
  cases ids with
  | nil => exact circle.elim
  | cons first rest =>
    have forth {id : QualifiedId} (on : id ∈ first :: rest) :
        TransGen (Link registered) id first := by
      obtain ⟨before, after, placed⟩ := List.append_of_mem on
      have whole : (before ++ (id :: after ++ [first])).IsChain (Link registered) := by
        simpa [Circle, placed] using circle
      exact transGen_of_isChain whole.right_of_append
    have back {id : QualifiedId} (on : id ∈ first :: rest) :
        TransGen (Link registered) first id := by
      rcases List.mem_cons.mp on with rfl | later
      · exact forth List.mem_cons_self
      · obtain ⟨before, after, rfl⟩ := List.append_of_mem later
        have whole : ((first :: before ++ [id]) ++ (after ++ [first])).IsChain (Link registered) := by
          simpa [Circle] using circle
        exact transGen_of_isChain whole.left_of_append
    exact (forth onLower).trans (back onUpper)

theorem exists_circle_of_reaches {lower upper : QualifiedId}
    (up : TransGen (Link registered) lower upper) (down : TransGen (Link registered) upper lower) :
    ∃ ids, Circle registered ids ∧ lower ∈ ids ∧ upper ∈ ids := by
  obtain ⟨above, rising⟩ := exists_isChain_of_transGen up
  obtain ⟨below, falling⟩ := exists_isChain_of_transGen down
  refine ⟨lower :: above ++ upper :: below, ?_, by simp, by simp⟩
  have whole : ((lower :: above) ++ upper :: (below ++ [lower])).IsChain (Link registered) :=
    List.isChain_split.mpr ⟨rising, falling⟩
  simpa [Circle] using whole

/-! ### Strictness -/

theorem mutual_iff {first second : TypeDescriptor} :
    isSupertypeOf ⟨registered⟩ first second = true ∧ isSupertypeOf ⟨registered⟩ second first = true ↔
      ∃ ids, Circle registered ids ∧ first.dataTypeId ∈ ids ∧ second.dataTypeId ∈ ids := by
  rw [isSupertypeOf_iff_reaches, isSupertypeOf_iff_reaches]
  constructor
  · rintro ⟨down, up⟩
    exact exists_circle_of_reaches up down
  · rintro ⟨ids, circle, onFirst, onSecond⟩
    exact ⟨circle.reaches onSecond onFirst, circle.reaches onFirst onSecond⟩

theorem strict_of_uncircled (uncircled : ∀ ids, ¬ Circle registered ids) : Strict registered where
  irrefl type above := by
    obtain ⟨ids, circle, -⟩ := mutual_iff.mp ⟨above, above⟩
    exact uncircled ids circle
  trans low middle high first second := by
    rw [isSupertypeOf_iff_reaches] at first second ⊢
    exact first.trans second

theorem uncircled_of_strict (strict : Strict registered) (ids : List QualifiedId) :
    ¬ Circle registered ids := by
  intro circle
  cases ids with
  | nil => exact circle
  | cons first rest =>
    -- Ids on a circle are those of registered types, so one of them is at hand.
    have around := circle.reaches List.mem_cons_self List.mem_cons_self
    obtain ⟨_, ⟨k, ⟨rfl, -⟩, -⟩, -⟩ := TransGen.head'_iff.mp around
    exact strict.irrefl (descriptor k) (isSupertypeOf_iff_reaches.mpr around)

/-- A type stands above itself just when it is on a circle, and two types stand above each other just
when one circle passes both. What stands above what is a strict order just when there is no circle. -/
theorem strict_iff_uncircled (registered : List κ) :
    (∀ type, isSupertypeOf ⟨registered⟩ type type = true ↔
      ∃ ids, Circle registered ids ∧ type.dataTypeId ∈ ids) ∧
    (∀ first second,
      isSupertypeOf ⟨registered⟩ first second = true ∧
          isSupertypeOf ⟨registered⟩ second first = true ↔
        ∃ ids, Circle registered ids ∧ first.dataTypeId ∈ ids ∧ second.dataTypeId ∈ ids) ∧
    (Strict registered ↔ ∀ ids, ¬ Circle registered ids) := by
  refine ⟨fun type => ?_, fun _ _ => mutual_iff, uncircled_of_strict, strict_of_uncircled⟩
  have itself := @mutual_iff κ _ registered type type
  simpa only [and_self] using itself

/-- A type that names itself as its supertype. -/
def selfMade : StructureDeclaration :=
  bare 4 4

/-- A type that names itself stands above itself, and two types that name each other stand above each
other. -/
theorem not_strict_of_selfMade :
    isSupertypeOf ⟨[selfMade]⟩ selfMade.descriptor selfMade.descriptor = true ∧
      isSupertypeOf ⟨circle⟩ (bare 1 2).descriptor (bare 2 1).descriptor = true ∧
      isSupertypeOf ⟨circle⟩ (bare 2 1).descriptor (bare 1 2).descriptor = true ∧
      ¬ Strict [selfMade] ∧ ¬ Strict circle := by
  have itself : isSupertypeOf ⟨[selfMade]⟩ selfMade.descriptor selfMade.descriptor = true := by
    decide
  have first : isSupertypeOf ⟨circle⟩ (bare 1 2).descriptor (bare 1 2).descriptor = true := by
    decide
  refine ⟨itself, by decide, by decide, fun strict => ?_, fun strict => ?_⟩
  · exact strict.irrefl _ itself
  · exact strict.irrefl _ first

end OpcUa.TypeRegistry
