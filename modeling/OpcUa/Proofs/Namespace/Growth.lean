import OpcUa.Proofs.Json.Record
import OpcUa.Proofs.Namespace.Indices

/-!
# Growth of namespace tables

A table only grows at its end, up to the last index that a word can tell, and a URI in it keeps the
first index that it got. The base namespace stands first and not second, so that a table is read
back from its JSON form, in which leading mentions of the base namespace count for nothing.
-/

namespace OpcUa.NamespaceTable

variable {t after : NamespaceTable} {uri : String} {uris : List String} {index : UInt16}

/-- The table after a URI has been offered to it. Where there is no room it stays as it was. -/
def offer (t : NamespaceTable) (uri : String) : NamespaceTable :=
  match t.add uri with
  | .ok (after, _) => after
  | .error _ => t

/-- The table after URIs have been offered one after another. -/
def offers (t : NamespaceTable) (uris : List String) : NamespaceTable :=
  uris.foldl offer t

/-! ### One more URI -/

/-- What is added is found at the index that was returned. -/
theorem indexOf?_of_add (added : t.add uri = .ok (after, index)) :
    after.indexOf? uri = some index := by
  rcases add_eq_ok_iff.mp added with ⟨found, rfl⟩ | ⟨absent, room, rfl, rfl⟩
  · exact found
  · have fits : (UInt16.ofNat t.size).toNat = t.size := UInt16.toNat_ofNat_of_lt' room
    have new := not_mem_of_indexOf? (Nat.le_of_lt room) absent
    rw [indexOf?_eq_some_iff, fits]
    exact findIdx?_concat new

theorem add_of_indexOf? (found : t.indexOf? uri = some index) : t.add uri = .ok (t, index) := by
  rw [add, found]

theorem not_held_before (found : t.indexOf? uri = some index) {earlier : UInt16}
    (less : earlier < index) : t.uri? earlier ≠ some uri :=
  (findIdx?_eq_some_iff.mp (indexOf?_eq_some_iff.mp found)).2 earlier.toNat
    (UInt16.lt_iff_toNat_lt.mp less)

theorem prefix_of_add (added : t.add uri = .ok (after, index)) : t.uris <+: after.uris := by
  rcases add_cases added with rfl | ⟨-, -, rfl⟩
  · exact List.prefix_rfl
  · exact List.prefix_append _ _

theorem add_eq_error_iff (bounded : t.size ≤ capacity) {fault : Fault} :
    t.add uri = .error fault ↔
      t.size = capacity ∧ uri ∉ t.uris ∧ fault = .namespaceTableFull uri := by
  rw [← exists_indexOf?_iff bounded]
  unfold add append
  cases t.indexOf? uri with
  | some index => simp
  | none =>
    dsimp only
    split
    · rename_i room
      simp [Nat.ne_of_lt room]
    · rename_i full
      simp [Nat.le_antisymm bounded (Nat.le_of_not_lt full), eq_comm]

/-! ### Any number of URIs -/

theorem Grown.offer (grown : Grown uris t) (uri : String) : Grown uris (t.offer uri) := by
  unfold NamespaceTable.offer
  split
  · rename_i added
    exact grown.add added
  · exact grown

theorem prefix_offer (t : NamespaceTable) (uri : String) : t.uris <+: (t.offer uri).uris := by
  unfold offer
  split
  · rename_i added
    exact prefix_of_add added
  · exact List.prefix_rfl

theorem Grown.offers (grown : Grown uris t) (more : List String) : Grown uris (t.offers more) := by
  induction more generalizing t with
  | nil => exact grown
  | cons uri more ih => exact ih (grown.offer uri)

theorem prefix_offers (t : NamespaceTable) (more : List String) :
    t.uris <+: (t.offers more).uris := by
  induction more generalizing t with
  | nil => exact List.prefix_rfl
  | cons uri more ih => exact (prefix_offer t uri).trans (ih (t.offer uri))

/-! ### The base namespace -/

/-- The base namespace stands first, and not second. -/
def IsBased (t : NamespaceTable) : Prop :=
  ∃ rest, t.uris = baseUri :: rest ∧ rest.head? ≠ some baseUri

theorem isBased_of_ofUris (made : ofUris uris = .ok t) : t.IsBased := by
  refine ⟨_, congrArg NamespaceTable.uris (ofUris_eq_ok made).1, fun repeated => ?_⟩
  have other := List.head?_dropWhile_not (· == baseUri) uris
  rw [repeated] at other
  simp at other

theorem isBased_of_add (based : t.IsBased) (added : t.add uri = .ok (after, index)) :
    after.IsBased := by
  rcases add_cases added with rfl | ⟨new, -, rfl⟩
  · exact based
  · obtain ⟨rest, whole, second⟩ := based
    refine ⟨rest ++ [uri], by rw [whole, List.cons_append], ?_⟩
    cases rest with
    | nil =>
      rintro ⟨rfl⟩
      exact new (whole ▸ List.mem_cons_self)
    | cons other rest => exact second

theorem Grown.isBased (grown : Grown uris t) : t.IsBased := by
  induction grown with
  | base => exact ⟨[], rfl, by simp⟩
  | list made => exact isBased_of_ofUris made
  | json listed read => exact isBased_of_ofUris (ofUris_of_ofJson? listed read)
  | add _ added ih => exact isBased_of_add ih added

theorem ofUris_uris (based : t.IsBased) (bounded : t.size ≤ capacity) :
    ofUris t.uris = .ok t := by
  obtain ⟨rest, whole, second⟩ := based
  have kept : t.uris.dropWhile (· == baseUri) = rest := by
    rw [whole, List.dropWhile_cons_of_pos (by simp)]
    cases rest with
    | nil => rfl
    | cons other rest =>
      rw [List.dropWhile_cons_of_neg]
      simpa using second
  have fits : rest.drop (capacity - 1) = [] := by
    rw [size, whole, List.length_cons] at bounded
    exact List.drop_eq_nil_of_le (Nat.le_sub_of_add_le bounded)
  rw [ofUris, kept, fits, ← whole]

theorem ofJson?_toJson (based : t.IsBased) (bounded : t.size ≤ capacity) :
    ofJson? t.toJson = some t := by
  have listed : t.toJson.asList? Json.asText? = some t.uris := Json.asTexts?_ofStrings t.uris
  rw [ofJson?, listed]
  simp [ofUris_uris based bounded]

/-- A table has room for 65536 URIs, of which the base namespace is the first. What is added is
found at the least index that holds it, and everything else where it was; it is refused only for
want of room, and then nothing is changed. The table is read back from its JSON form. -/
theorem growth_of_table (grown : Grown uris t) :
    (1 ≤ t.size ∧ t.size ≤ 65536 ∧ t.uri? 0 = some baseUri) ∧
    (∀ uri after index, t.add uri = .ok (after, index) →
      t.uris <+: after.uris ∧ after.uri? index = some uri ∧
        (∀ earlier < index, after.uri? earlier ≠ some uri) ∧
        after.add uri = .ok (after, index)) ∧
    (∀ uri, ((∃ fault, t.add uri = .error fault) ↔ t.size = 65536 ∧ uri ∉ t.uris) ∧
      (t.size = 65536 → uri ∉ t.uris → t.offer uri = t)) ∧
    (∀ more, Grown uris (t.offers more) ∧ t.uris <+: (t.offers more).uris) ∧
    (Json.parse? t.toJson.bytes).bind ofJson? = some t := by
  have bounded : t.size ≤ capacity := grown.size_le
  obtain ⟨rest, whole, -⟩ := grown.isBased
  refine ⟨⟨?_, bounded, ?_⟩, fun uri after index added => ?_, fun uri => ⟨?_, ?_⟩,
    fun more => ⟨grown.offers more, prefix_offers t more⟩, ?_⟩
  · rw [size, whole, List.length_cons]
    exact Nat.le_add_left 1 rest.length
  · rw [uri?, whole]
    rfl
  · have found := indexOf?_of_add added
    exact ⟨prefix_of_add added, uri?_of_indexOf? found, fun earlier => not_held_before found,
      add_of_indexOf? found⟩
  · constructor
    · rintro ⟨fault, refused⟩
      obtain ⟨full, absent, -⟩ := (add_eq_error_iff bounded).mp refused
      exact ⟨full, absent⟩
    · rintro ⟨full, absent⟩
      exact ⟨_, (add_eq_error_iff bounded).mpr ⟨full, absent, rfl⟩⟩
  · intro full absent
    rw [offer, (add_eq_error_iff bounded).mpr ⟨full, absent, rfl⟩]
  · have plain : Json.IsPlain 1 t.toJson := Json.plain_ofStrings 0 t.uris
    rw [Json.parse?_bytes plain, Option.bind_some, ofJson?_toJson grown.isBased bounded]

/-- A table with no room left, of one plant after the base namespace. -/
def crowded : NamespaceTable :=
  ⟨baseUri :: List.replicate 65535 "urn:plant"⟩

theorem grown_crowded : Grown (List.replicate 65535 "urn:plant") crowded := by
  refine .list ?_
  have unled : (List.replicate 65535 "urn:plant").dropWhile (· == baseUri) =
      List.replicate 65535 "urn:plant" := by
    rw [List.dropWhile_replicate]
    rfl
  have fits : (List.replicate 65535 "urn:plant").drop (capacity - 1) = [] :=
    List.drop_eq_nil_of_le (Nat.le_of_eq List.length_replicate)
  rw [ofUris, unled, fits]
  rfl

theorem growth_of_crowded :
    Grown (List.replicate 65535 "urn:plant") crowded ∧ crowded.size = 65536 ∧
      (∃ fault, crowded.add "urn:line" = .error fault) ∧ crowded.offer "urn:line" = crowded ∧
      (Json.parse? crowded.toJson.bytes).bind ofJson? = some crowded := by
  obtain ⟨-, -, refused, -, read⟩ := growth_of_table grown_crowded
  have full : crowded.size = 65536 := by
    rw [size, crowded, List.length_cons, List.length_replicate]
  have absent : "urn:line" ∉ crowded.uris := by
    intro member
    rcases List.mem_cons.mp member with same | later
    · exact absurd same (by decide)
    · exact absurd (List.eq_of_mem_replicate later) (by decide)
  obtain ⟨refuses, unchanged⟩ := refused "urn:line"
  exact ⟨grown_crowded, full, refuses.mpr ⟨full, absent⟩, unchanged full absent, read⟩

end OpcUa.NamespaceTable
