import Mathlib.Data.List.FinRange
import OpcUa.Encoding.Array
import OpcUa.Proofs.Fallible
import OpcUa.Proofs.Structure.Standard

/-!
# Types of decoded arrays

However the narrowest type is found, where no type stands above itself an array is typed only when
all of its values are of that very type. So the order of the items does not count, and an array can
be taken as values of a kind just when it is typed by it.
-/

namespace OpcUa

open StructureFamily

variable {κ : Type} [StructureFamily κ]

namespace TypeRegistry

variable {r : TypeRegistry κ}

/-- The narrower of two types is an instance of both. -/
theorem isA_of_narrower? {best found next : TypeDescriptor}
    (narrowed : r.narrower? best found = some next) :
    r.isA next best = true ∧ r.isA next found = true := by
  unfold narrower? at narrowed
  split at narrowed
  · rename_i above
    cases narrowed
    refine ⟨by simp [isA], ?_⟩
    simp only [Bool.or_eq_true, decide_eq_true_eq] at above
    rcases above with rfl | above
    · simp [isA]
    · simp [isA, above]
  · split at narrowed
    · rename_i below
      cases narrowed
      exact ⟨by simp [isA, below], by simp [isA]⟩
    · cases narrowed

theorem isA_of_narrow? {best : Option TypeDescriptor} {found next : TypeDescriptor}
    (narrowed : r.narrow? best found = some next) :
    (∀ type, best = some type → r.isA next type = true) ∧ r.isA next found = true := by
  cases best with
  | none =>
    cases narrowed
    exact ⟨fun _ given => (nomatch given), by simp [isA]⟩
  | some best =>
    obtain ⟨below_best, below_found⟩ := isA_of_narrower? narrowed
    refine ⟨fun type given => ?_, below_found⟩
    cases given
    exact below_best

/-- The last of the running types is an instance of the first and of every type on the way. -/
theorem isA_of_foldlM {types : List TypeDescriptor} {best last : Option TypeDescriptor}
    (narrowed : types.foldlM (fun best found => (r.narrow? best found).map some) best = some last) :
    ∀ type, best = some type ∨ type ∈ types → ∃ narrowest, last = some narrowest ∧
      r.isA narrowest type = true := by
  induction types generalizing best with
  | nil =>
    rintro type (rfl | member)
    · cases narrowed
      exact ⟨type, rfl, by simp [isA]⟩
    · cases member
  | cons found types ih =>
    rw [List.foldlM_cons] at narrowed
    obtain ⟨_, stepped, narrowed⟩ := Option.bind_eq_some_iff.mp narrowed
    obtain ⟨next, step, rfl⟩ := Option.map_eq_some_iff.mp stepped
    obtain ⟨below_best, below_found⟩ := isA_of_narrow? step
    obtain ⟨narrowest, rfl, below⟩ := ih narrowed next (.inl rfl)
    rintro type (given | member)
    · exact ⟨narrowest, rfl, isA_trans below (below_best type given)⟩
    · rcases List.mem_cons.mp member with rfl | member
      · exact ⟨narrowest, rfl, isA_trans below below_found⟩
      · exact ih narrowed type (.inr member)

theorem foldlM_of_same {type : TypeDescriptor} {types : List TypeDescriptor}
    (same : ∀ other ∈ types, other = type) :
    types.foldlM (fun best found => (r.narrow? best found).map some) (some type) =
      some (some type) := by
  induction types with
  | nil => rfl
  | cons found types ih =>
    have head : found = type := same found List.mem_cons_self
    have tail : ∀ other ∈ types, other = type := fun other member =>
      same other (List.mem_cons_of_mem _ member)
    subst head
    rw [List.foldlM_cons]
    simpa [narrow?, narrower?] using ih tail

/-- Without circles the values of an array have a type in common only if all of them have the
same. -/
theorem elementType?_eq_some_iff (acyclic : r.Acyclic) {types : List TypeDescriptor}
    {type : TypeDescriptor} :
    r.elementType? types = some type ↔ types ≠ [] ∧ ∀ other ∈ types, other = type := by
  unfold elementType? narrowest?
  rw [Option.filter_eq_some_iff, Option.join_eq_some_iff]
  constructor
  · rintro ⟨narrowed, instances⟩
    have below := isA_of_foldlM narrowed
    refine ⟨?_, fun other member => ?_⟩
    · rintro rfl
      cases narrowed
    · obtain ⟨_, ⟨⟩, forth⟩ := below other (.inr member)
      exact acyclic.isA_antisymm (List.all_eq_true.mp instances other member) forth
  · rintro ⟨inhabited, same⟩
    obtain ⟨first, rest, rfl⟩ := List.exists_cons_of_ne_nil inhabited
    have head : first = type := same first List.mem_cons_self
    subst head
    refine ⟨?_, ?_⟩
    · rw [List.foldlM_cons]
      exact foldlM_of_same fun other member => same other (List.mem_cons_of_mem _ member)
    · rw [List.all_eq_true]
      intro other member
      rw [same other member]
      simp [isA]

/-- So the order in which the types come does not count. -/
theorem elementType?_perm (acyclic : r.Acyclic) {types others : List TypeDescriptor}
    (perm : types.Perm others) : r.elementType? types = r.elementType? others := by
  apply Option.ext
  intro type
  rw [elementType?_eq_some_iff acyclic, elementType?_eq_some_iff acyclic]
  have empty : types = [] ↔ others = [] := by
    rw [← List.length_eq_zero_iff, ← List.length_eq_zero_iff, perm.length_eq]
  exact and_congr (not_congr empty) (forall_congr' fun other => imp_congr_left perm.mem_iff)

end TypeRegistry

namespace EncoderContext

variable {c : EncoderContext κ} {now : Instant} {sender : Option NamespaceTable}

theorem decodeItems_eq_ok_iff {envelopes : List (Option (ExtensionObject κ))}
    {a : DecodedArray κ} :
    c.decodeItems now sender envelopes = .ok a ↔
      envelopes.map (c.decodeItem now sender) = a.items.map .ok ∧
        a.elementType = c.registry.elementType? (a.values.map Structure.descriptor) := by
  obtain ⟨type, items⟩ := a
  rw [decodeItems, ← mapM_eq_ok_iff]
  cases decoded : envelopes.mapM (c.decodeItem now sender) with
  | error fault => simp [bind, Except.bind]
  | ok found =>
    simp only [bind, Except.bind, pure, Except.pure, Except.ok.injEq, DecodedArray.mk.injEq]
    constructor
    · rintro ⟨rfl, rfl⟩
      exact ⟨rfl, rfl⟩
    · rintro ⟨rfl, typed⟩
      exact ⟨typed.symm, rfl⟩

theorem elementType_eq_some_iff (acyclic : c.registry.Acyclic)
    {envelopes : List (Option (ExtensionObject κ))} {a : DecodedArray κ}
    (decoded : c.decodeItems now sender envelopes = .ok a) {type : TypeDescriptor} :
    a.elementType = some type ↔ a.values ≠ [] ∧ ∀ value ∈ a.values, value.descriptor = type := by
  rw [(decodeItems_eq_ok_iff.mp decoded).2, TypeRegistry.elementType?_eq_some_iff acyclic,
    ne_eq, List.map_eq_nil_iff, List.forall_mem_map]

/-- Every item has the place that its envelope had. -/
theorem exists_place {envelopes : List (Option (ExtensionObject κ))} {a : DecodedArray κ}
    (decoded : c.decodeItems now sender envelopes = .ok a) :
    ∃ place : Fin envelopes.length → Option (Structure κ), a.items = List.ofFn place ∧
      ∀ i, c.decodeItem now sender (envelopes.get i) = .ok (place i) := by
  obtain ⟨found, -⟩ := decodeItems_eq_ok_iff.mp decoded
  have same : envelopes.length = a.items.length := by
    simpa using congrArg List.length found
  refine ⟨fun i => a.items.get (i.cast same), ?_, fun i => ?_⟩
  · apply List.ext_getElem
    · simp [same]
    · simp
  · have here := congrArg (·[i]?) found
    simpa [← same] using here

theorem decodeItems_permuted (acyclic : c.registry.Acyclic) {size : Nat}
    {envelope : Fin size → Option (ExtensionObject κ)} {place : Fin size → Option (Structure κ)}
    {type : Option TypeDescriptor} (permutation : Equiv.Perm (Fin size))
    (decoded : c.decodeItems now sender (List.ofFn envelope) = .ok ⟨type, List.ofFn place⟩) :
    c.decodeItems now sender (List.ofFn (envelope ∘ permutation)) =
      .ok ⟨type, List.ofFn (place ∘ permutation)⟩ := by
  rw [decodeItems_eq_ok_iff, List.map_ofFn, List.map_ofFn, List.ofFn_inj] at decoded ⊢
  obtain ⟨found, typed⟩ := decoded
  refine ⟨congrArg (· ∘ permutation) found, ?_⟩
  have perm : (List.ofFn place).Perm (List.ofFn (place ∘ permutation)) :=
    (permutation.ofFn_comp_perm place).symm
  exact typed.trans (TypeRegistry.elementType?_perm acyclic ((perm.filterMap _).map _))

end EncoderContext

namespace DecodedArray

variable [DecidableEq κ] {a : DecodedArray κ} {k : κ}

theorem mk_as?_of_kind {value : Structure κ} (same : value.kind = k) :
    (value.as? k).map (Structure.mk k) = some value := by
  obtain ⟨kind, value⟩ := value
  cases same
  simp [Structure.as?]

/-- An array of values of one kind gives them all, each in its place. -/
theorem intoTyped_of_kind (typed : a.elementType = some (descriptor k))
    (same : ∀ value ∈ a.values, value.kind = k) :
    ∃ values, a.intoTyped k = .ok values ∧ values.map (Option.map (Structure.mk k)) = a.items := by
  have exact : (a.elementType == some (descriptor k) && a.values.all (Structure.isOf k)) = true := by
    simpa [typed, Structure.isOf] using same
  refine ⟨_, if_pos exact, ?_⟩
  rw [List.map_map]
  conv_rhs => rw [← List.map_id a.items]
  refine List.map_congr_left fun item member => ?_
  cases item with
  | none => rfl
  | some value =>
    exact mk_as?_of_kind (same value (List.mem_filterMap.mpr ⟨some value, member, rfl⟩))

theorem intoTyped_of_ne (other : a.elementType ≠ some (descriptor k)) :
    a.intoTyped k = .error a := by
  simp [intoTyped, other]

end DecodedArray

open EncoderContext DecodedArray in
/-- In a registry without circles an array is typed by the one type that all of its values have,
in whichever order they come, and only as values of that type can it be taken. -/
theorem typing_of_decoded [DecidableEq κ] {c : EncoderContext κ} {now : Instant}
    {sender : Option NamespaceTable} {envelopes : List (Option (ExtensionObject κ))}
    {a : DecodedArray κ} (acyclic : c.registry.Acyclic)
    (decoded : c.decodeItems now sender envelopes = .ok a) :
    (∀ type, a.elementType = some type ↔
      a.values ≠ [] ∧ ∀ value ∈ a.values, value.descriptor = type) ∧
    (∃ place : Fin envelopes.length → Option (Structure κ), a.items = List.ofFn place ∧
      (∀ i, c.decodeItem now sender (envelopes.get i) = .ok (place i)) ∧
      ∀ permutation : Equiv.Perm (Fin envelopes.length),
        c.decodeItems now sender (List.ofFn (envelopes.get ∘ permutation)) =
          .ok { a with items := List.ofFn (place ∘ permutation) }) ∧
    (Function.Injective (descriptor : κ → TypeDescriptor) → ∀ k,
      (a.elementType = some (descriptor k) → ∃ values, a.intoTyped k = .ok values ∧
        values.map (Option.map (Structure.mk k)) = a.items) ∧
      (a.elementType ≠ some (descriptor k) → a.intoTyped k = .error a)) := by
  refine ⟨fun _ => elementType_eq_some_iff acyclic decoded, ?_,
    fun distinct k => ⟨fun typed => ?_, intoTyped_of_ne⟩⟩
  · obtain ⟨place, placed, found⟩ := exists_place decoded
    refine ⟨place, placed, found, fun permutation => ?_⟩
    have decoded : c.decodeItems now sender (List.ofFn envelopes.get) =
        .ok ⟨a.elementType, List.ofFn place⟩ := by
      rw [List.ofFn_get, decoded, ← placed]
    exact decodeItems_permuted acyclic permutation decoded
  · obtain ⟨-, same⟩ := (elementType_eq_some_iff acyclic decoded).mp typed
    exact intoTyped_of_kind typed fun value member => distinct (same value member)

/-- Two views with an absent item and one of a type that is not registered between them. -/
def spacedViews : List (Option (ExtensionObject StandardKind)) :=
  let view := .ofStructure (.standard fun k => k) ⟨.viewAttributes, ({} : ViewAttributes)⟩
  [some view, none, some ⟨{ identifier := .numeric 1 }, .encoded []⟩, some view]

theorem typing_of_spaced_views :
    ∃ a, (EncoderContext.standard fun k => k).decodeItems .epoch none spacedViews = .ok a ∧
      a.elementType = some (descriptor StandardKind.viewAttributes) ∧
      (∃ values, a.intoTyped .viewAttributes = .ok values ∧
        values.map (Option.map (Structure.mk .viewAttributes)) = a.items) ∧
      a.intoTyped .nodeAttributes = .error a := by
  obtain ⟨-, -, taken⟩ := typing_of_decoded TypeRegistry.acyclic_standard
    (rfl : (EncoderContext.standard fun k => k).decodeItems .epoch none spacedViews = _)
  have taken := taken StandardKind.descriptor_injective
  exact ⟨_, rfl, rfl, (taken .viewAttributes).1 rfl, (taken .nodeAttributes).2 (by decide)⟩

end OpcUa
