import Mathlib.Data.List.Nodup
import OpcUa.Namespace

/-!
# Indices of namespaces

An id that is expanded and then localized by the same table comes back with the first index of its
namespace. So all ids come back as they were just when no URI stands in the table twice. Adding a
URI neither brings that about nor mends it: it is settled by the list that a table was made from, in
which only the base namespace at the start may be repeated.
-/

namespace OpcUa.NamespaceTable

variable {t after : NamespaceTable} {uri : String} {uris : List String} {index : UInt16}

/-- The tables that can be had, each with the URIs that it was made from. -/
inductive Grown : List String → NamespaceTable → Prop
  | base : Grown [] .base
  | list {uris : List String} {t : NamespaceTable} (made : ofUris uris = .ok t) : Grown uris t
  | json {value : Json} {uris : List String} {t : NamespaceTable}
      (listed : value.asList? Json.asText? = some uris) (read : ofJson? value = some t) :
      Grown uris t
  | add {uris : List String} {t after : NamespaceTable} {uri : String} {index : UInt16}
      (grown : Grown uris t) (added : t.add uri = .ok (after, index)) : Grown uris after

/-- Every id of a namespace in the table is expanded and comes back as it was. -/
def RoundTrips (t : NamespaceTable) : Prop :=
  ∀ id, (t.uri? id.namespaceIndex).isSome →
    ∃ expanded, t.expand id = .ok expanded ∧ t.localize expanded = .ok id

/-- Every index is found again by its URI. -/
def Indexes (t : NamespaceTable) : Prop :=
  ∀ index uri, t.uri? index = some uri → t.indexOf? uri = some index

/-! ### Looking up -/

theorem findIdx?_eq_some_iff {place : Nat} :
    uris.findIdx? (· == uri) = some place ↔
      uris[place]? = some uri ∧ ∀ earlier < place, uris[earlier]? ≠ some uri := by
  rw [List.findIdx?_eq_some_iff_getElem]
  constructor
  · rintro ⟨within, here, before⟩
    refine ⟨by simpa [List.getElem?_eq_getElem within] using here, fun earlier less found => ?_⟩
    obtain ⟨_, same⟩ := List.getElem?_eq_some_iff.mp found
    exact before earlier less (beq_iff_eq.mpr same)
  · rintro ⟨found, before⟩
    obtain ⟨within, here⟩ := List.getElem?_eq_some_iff.mp found
    refine ⟨within, beq_iff_eq.mpr here, fun earlier less same => before earlier less ?_⟩
    rw [List.getElem?_eq_getElem (Nat.lt_trans less within), eq_of_beq same]

theorem findIdx?_eq_none_iff : uris.findIdx? (· == uri) = none ↔ uri ∉ uris := by
  simp only [List.findIdx?_eq_none_iff, beq_eq_false_iff_ne]
  exact List.forall_mem_ne'

theorem findIdx?_concat (new : uri ∉ uris) :
    (uris ++ [uri]).findIdx? (· == uri) = some uris.length := by
  rw [List.findIdx?_append, findIdx?_eq_none_iff.mpr new]
  simp

theorem indexOf?_eq_some_iff :
    t.indexOf? uri = some index ↔ t.uris.findIdx? (· == uri) = some index.toNat := by
  unfold indexOf?
  cases t.uris.findIdx? (· == uri) with
  | none => simp
  | some place =>
    simp only [Option.ite_none_right_eq_some, Option.some.injEq]
    constructor
    · rintro ⟨fits, rfl⟩
      exact (UInt16.toNat_ofNat_of_lt' fits).symm
    · rintro rfl
      exact ⟨index.toNat_lt_size, UInt16.ofNat_toNat⟩

theorem exists_indexOf? (known : t.uri? index = some uri) :
    ∃ first, t.indexOf? uri = some first ∧ first ≤ index ∧ t.uri? first = some uri := by
  cases found : t.uris.findIdx? (· == uri) with
  | none => exact absurd (List.mem_of_getElem? known) (findIdx?_eq_none_iff.mp found)
  | some place =>
    obtain ⟨here, before⟩ := findIdx?_eq_some_iff.mp found
    have le : place ≤ index.toNat := Nat.le_of_not_lt fun less => before index.toNat less known
    have fits : (UInt16.ofNat place).toNat = place :=
      UInt16.toNat_ofNat_of_lt' (Nat.lt_of_le_of_lt le index.toNat_lt_size)
    refine ⟨.ofNat place, indexOf?_eq_some_iff.mpr (fits.symm ▸ found), ?_, ?_⟩
    · exact UInt16.le_iff_toNat_le.mpr (fits.symm ▸ le)
    · rwa [uri?, fits]

theorem uri?_of_indexOf? (found : t.indexOf? uri = some index) : t.uri? index = some uri :=
  (findIdx?_eq_some_iff.mp (indexOf?_eq_some_iff.mp found)).1

theorem exists_indexOf?_iff (bounded : t.size ≤ capacity) :
    (∃ index, t.indexOf? uri = some index) ↔ uri ∈ t.uris := by
  constructor
  · rintro ⟨index, found⟩
    exact List.mem_of_getElem? (uri?_of_indexOf? found)
  · intro member
    obtain ⟨place, within, here⟩ := List.mem_iff_getElem.mp member
    have fits : (UInt16.ofNat place).toNat = place :=
      UInt16.toNat_ofNat_of_lt' (Nat.lt_of_lt_of_le within bounded)
    have known : t.uri? (.ofNat place) = some uri := by
      rw [uri?, fits, List.getElem?_eq_getElem within, here]
    obtain ⟨first, found, -⟩ := exists_indexOf? known
    exact ⟨first, found⟩

/-- An id that is expanded and localized comes back with the first index of its namespace. -/
theorem localize_expand (id : NodeId) (known : t.uri? id.namespaceIndex = some uri) :
    ∃ expanded, t.expand id = .ok expanded ∧
      t.localize expanded = t.nodeId uri id.identifier := by
  refine ⟨_, by rw [expand, known], ?_⟩
  rfl

theorem roundTrips_iff_indexes : t.RoundTrips ↔ t.Indexes := by
  constructor
  · intro returns index uri known
    obtain ⟨expanded, expands, back⟩ := returns ⟨index, .numeric 0⟩ (by rw [known]; rfl)
    obtain ⟨_, expands', localized⟩ := localize_expand ⟨index, .numeric 0⟩ known
    cases expands.symm.trans expands'
    obtain ⟨first, found, -⟩ := exists_indexOf? known
    rw [back, nodeId, found] at localized
    cases localized
    exact found
  · intro indexes id known
    obtain ⟨uri, known⟩ := Option.isSome_iff_exists.mp known
    obtain ⟨expanded, expands, localized⟩ := localize_expand id known
    refine ⟨expanded, expands, ?_⟩
    rw [localized, nodeId, indexes _ _ known]

theorem indexes_of_nodup (distinct : t.uris.Nodup) : t.Indexes := by
  intro index uri known
  obtain ⟨first, found, le, here⟩ := exists_indexOf? known
  have same := (List.getElem?_inj (List.getElem?_eq_some_iff.mp known).1 distinct).mp
    (known.trans here.symm)
  rwa [UInt16.toNat.inj same]

theorem nodup_of_indexes (bounded : t.size ≤ capacity) (indexes : t.Indexes) : t.uris.Nodup := by
  have place {i : Nat} {uri : String} (here : t.uris[i]? = some uri) :
      i = (UInt16.ofNat i).toNat ∧ t.indexOf? uri = some (.ofNat i) := by
    have within := (List.getElem?_eq_some_iff.mp here).1
    have fits : (UInt16.ofNat i).toNat = i :=
      UInt16.toNat_ofNat_of_lt' (Nat.lt_of_lt_of_le within bounded)
    exact ⟨fits.symm, indexes _ _ (by rwa [uri?, fits])⟩
  rw [List.nodup_iff_getElem?_ne_getElem?]
  intro i j less within same
  have last := List.getElem?_eq_getElem within
  obtain ⟨first_fits, first⟩ := place (same.trans last)
  obtain ⟨last_fits, second⟩ := place last
  have equal : UInt16.ofNat i = .ofNat j := Option.some.inj (first.symm.trans second)
  rw [first_fits, last_fits, equal] at less
  exact Nat.lt_irrefl _ less

/-! ### Growing -/

/-- Adding either finds the URI or appends it. -/
theorem add_eq_ok_iff : t.add uri = .ok (after, index) ↔
    t.indexOf? uri = some index ∧ after = t ∨
      t.indexOf? uri = none ∧ t.size < capacity ∧ after = ⟨t.uris ++ [uri]⟩ ∧
        index = .ofNat t.size := by
  unfold add append
  cases t.indexOf? uri with
  | some first => simp [eq_comm, and_comm]
  | none =>
    dsimp only
    split
    · rename_i room
      simp [room, eq_comm]
    · rename_i full
      simp [full]

theorem not_mem_of_indexOf? (bounded : t.size ≤ capacity) (absent : t.indexOf? uri = none) :
    uri ∉ t.uris := by
  rw [← exists_indexOf?_iff bounded, absent]
  rintro ⟨index, found⟩
  cases found

/-- What is put at the end is new. -/
theorem add_cases (added : t.add uri = .ok (after, index)) :
    after = t ∨ uri ∉ t.uris ∧ t.size < capacity ∧ after = ⟨t.uris ++ [uri]⟩ := by
  rcases add_eq_ok_iff.mp added with ⟨-, same⟩ | ⟨absent, room, appended, -⟩
  · exact .inl same
  · exact .inr ⟨not_mem_of_indexOf? (Nat.le_of_lt room) absent, room, appended⟩

theorem add_size_le (bounded : t.size ≤ capacity) (added : t.add uri = .ok (after, index)) :
    after.size ≤ capacity := by
  rcases add_cases added with rfl | ⟨-, room, rfl⟩
  · exact bounded
  · rw [size, List.length_append]
    exact room

theorem add_nodup_iff (added : t.add uri = .ok (after, index)) :
    after.uris.Nodup ↔ t.uris.Nodup := by
  rcases add_cases added with rfl | ⟨new, -, rfl⟩
  · exact Iff.rfl
  · exact List.nodup_append_comm.trans (List.nodup_cons.trans (and_iff_right new))

theorem ofUris_eq_ok (made : ofUris uris = .ok t) :
    t = ⟨baseUri :: uris.dropWhile (· == baseUri)⟩ ∧ t.size ≤ capacity := by
  unfold ofUris at made
  dsimp only at made
  split at made
  · rename_i fits
    cases made
    exact ⟨rfl, Nat.succ_le_succ (List.drop_eq_nil_iff.mp fits)⟩
  · cases made

theorem ofUris_of_ofJson? {value : Json} (listed : value.asList? Json.asText? = some uris)
    (read : ofJson? value = some t) : ofUris uris = .ok t := by
  rw [ofJson?, listed, Option.bind_eq_bind, Option.bind_some] at read
  split at read
  · rename_i made
    cases read
    exact made
  · cases read

theorem Grown.size_le (grown : Grown uris t) : t.size ≤ capacity := by
  induction grown with
  | base => decide
  | list made => exact (ofUris_eq_ok made).2
  | json listed read => exact (ofUris_eq_ok (ofUris_of_ofJson? listed read)).2
  | add _ added ih => exact add_size_le ih added

theorem Grown.nodup_iff (grown : Grown uris t) :
    t.uris.Nodup ↔ (baseUri :: uris.dropWhile (· == baseUri)).Nodup := by
  induction grown with
  | base => exact Iff.rfl
  | list made => rw [(ofUris_eq_ok made).1]
  | json listed read => rw [(ofUris_eq_ok (ofUris_of_ofJson? listed read)).1]
  | add _ added ih => exact (add_nodup_iff added).trans ih

/-- Ids come back from a table, and indices from their URIs, just when nothing is repeated in the
list that the table was made from, the base namespace at its start apart. -/
theorem roundTrips_iff (grown : Grown uris t) :
    (t.RoundTrips ↔ (baseUri :: uris.dropWhile (· == baseUri)).Nodup) ∧
      (t.Indexes ↔ (baseUri :: uris.dropWhile (· == baseUri)).Nodup) := by
  have indexes : t.Indexes ↔ (baseUri :: uris.dropWhile (· == baseUri)).Nodup := by
    rw [← grown.nodup_iff]
    exact ⟨nodup_of_indexes grown.size_le, indexes_of_nodup⟩
  exact ⟨roundTrips_iff_indexes.trans indexes, indexes⟩

/-- A table with a plant, and a line added to it. -/
theorem roundTrips_of_plant :
    ∃ t, Grown ["urn:plant"] t ∧ t.uris = [baseUri, "urn:plant", "urn:line"] ∧ t.RoundTrips := by
  have started : Grown ["urn:plant"] ⟨[baseUri, "urn:plant"]⟩ := .list rfl
  have added : add ⟨[baseUri, "urn:plant"]⟩ "urn:line" =
      .ok (⟨[baseUri, "urn:plant", "urn:line"]⟩, 2) := rfl
  have grown := started.add added
  exact ⟨_, grown, rfl, (roundTrips_iff grown).1.mpr (by decide)⟩

/-- In a table that was made from a list with a plant twice, the second index of the plant does not
come back. -/
theorem not_roundTrips_of_repeated :
    ∃ t expanded, Grown ["urn:plant", "urn:plant"] t ∧ t.uri? 2 = some "urn:plant" ∧
      t.expand ⟨2, .text "Valve"⟩ = .ok expanded ∧
      t.localize expanded = .ok ⟨1, .text "Valve"⟩ ∧ ¬ t.RoundTrips := by
  have grown : Grown ["urn:plant", "urn:plant"] ⟨[baseUri, "urn:plant", "urn:plant"]⟩ :=
    .list rfl
  refine ⟨_, _, grown, rfl, rfl, rfl, fun returns => ?_⟩
  obtain ⟨expanded, expands, back⟩ := returns ⟨2, .text "Valve"⟩ rfl
  cases expands
  cases back

end OpcUa.NamespaceTable
