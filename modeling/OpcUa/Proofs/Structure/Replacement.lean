import OpcUa.Proofs.Structure.Lookup

/-!
# Types that are registered again

Of several types with one id the last is found. An encoding goes on standing for the id of a type
that has been replaced, and so for the type that came in its place, whether or not that has the
encoding. Apart from such encodings, types are found as if only the last with each id had been
registered.
-/

namespace OpcUa.TypeRegistry

open StructureFamily

variable {κ : Type} [StructureFamily κ] {registered later : List κ} {id : QualifiedId} {k : κ}

/-- Of all types with one id of their own, the last. -/
def lasting : List κ → List κ
  | [] => []
  | k :: later =>
    if later.any fun other => (descriptor other).dataTypeId == (descriptor k).dataTypeId then
      lasting later
    else k :: lasting later

/-- The type is the last one with that encoding. -/
def LastEncoding (registered : List κ) (id : QualifiedId) (k : κ) : Prop :=
  (descriptor k).encodes id = true ∧ ∃ before after, registered = before ++ k :: after ∧
    ∀ later ∈ after, (descriptor later).encodes id = false

/-- The id is no type's own, and the last type with that encoding has been replaced by one without
it. -/
def Stale (registered : List κ) (id : QualifiedId) : Prop :=
  (∀ k ∈ registered, (descriptor k).dataTypeId ≠ id) ∧
    ∃ replaced k, LastEncoding registered id replaced ∧
      LastWith registered (descriptor replaced).dataTypeId k ∧ (descriptor k).encodes id = false

/-! ### The last types -/

theorem find?_reverse_cons {α : Type} (item : α) (items : List α) (wanted : α → Bool) :
    (item :: items).reverse.find? wanted =
      (items.reverse.find? wanted).or (if wanted item then some item else none) := by
  rw [List.reverse_cons, List.find?_append, List.find?_singleton]

theorem typeAt?_cons (k : κ) (later : List κ) (id : QualifiedId) :
    typeAt? ⟨k :: later⟩ id =
      (typeAt? ⟨later⟩ id).or (if (descriptor k).dataTypeId = id then some k else none) := by
  simp only [typeAt?, find?_reverse_cons, beq_iff_eq]

/-- An id that a later type has is found where it was found among the later types. -/
theorem typeAt?_cons_of_mem {other : κ} (member : other ∈ later) :
    typeAt? ⟨k :: later⟩ (descriptor other).dataTypeId =
      typeAt? ⟨later⟩ (descriptor other).dataTypeId := by
  rw [typeAt?_cons]
  cases there : typeAt? ⟨later⟩ (descriptor other).dataTypeId with
  | none => exact absurd rfl (typeAt?_eq_none_iff.mp there other member)
  | some found => rw [Option.some_or]

/-- A type is replaced just when its id is found among those that come after it. -/
theorem lasting_cons (k : κ) (later : List κ) :
    lasting (k :: later) = match typeAt? ⟨later⟩ (descriptor k).dataTypeId with
      | some _ => lasting later
      | none => k :: lasting later := by
  rw [lasting]
  split
  · rename_i found
    obtain ⟨other, member, same⟩ := List.any_eq_true.mp found
    split
    · rfl
    · rename_i absent
      exact absurd (eq_of_beq same) (typeAt?_eq_none_iff.mp absent other member)
  · rename_i unfound
    split
    · rename_i other found
      obtain ⟨member, same⟩ := typeAt?_some found
      have again : (descriptor other).dataTypeId == (descriptor k).dataTypeId := beq_iff_eq.mpr same
      exact absurd (List.any_eq_true.mpr ⟨other, member, again⟩) unfound
    · rfl

theorem typeAt?_lasting (registered : List κ) (id : QualifiedId) :
    typeAt? ⟨lasting registered⟩ id = typeAt? ⟨registered⟩ id := by
  induction registered with
  | nil => rfl
  | cons k later ih =>
    rw [lasting_cons, typeAt?_cons]
    split
    · rename_i other found
      rw [ih]
      by_cases own : (descriptor k).dataTypeId = id
      · rw [← own, found, Option.some_or]
      · rw [if_neg own, Option.or_none]
    · rw [typeAt?_cons, ih]

theorem lasting_sublist (registered : List κ) : (lasting registered).Sublist registered := by
  induction registered with
  | nil => exact .slnil
  | cons k later ih =>
    rw [lasting]
    split
    · exact ih.cons k
    · exact ih.cons_cons k

theorem typeAt?_of_mem_lasting (member : k ∈ lasting registered) :
    typeAt? ⟨registered⟩ (descriptor k).dataTypeId = some k := by
  induction registered with
  | nil => cases member
  | cons first later ih =>
    rw [typeAt?_cons]
    rw [lasting_cons] at member
    split at member
    · rw [ih member, Option.some_or]
    · rename_i absent
      rcases List.mem_cons.mp member with rfl | member
      · rw [absent, Option.none_or, if_pos rfl]
      · rw [ih member, Option.some_or]

theorem mem_lasting_of_typeAt? (found : typeAt? ⟨registered⟩ id = some k) :
    k ∈ lasting registered := by
  rw [← typeAt?_lasting] at found
  exact (typeAt?_some found).1

/-! ### Encodings -/

theorem lastEncoding?_eq_some_iff :
    lastEncoding? registered id = some k ↔ LastEncoding registered id k :=
  find?_reverse_eq_some_iff

theorem lastEncoding?_cons (k : κ) (later : List κ) (id : QualifiedId) :
    lastEncoding? (k :: later) id =
      (lastEncoding? later id).or (if (descriptor k).encodes id then some k else none) :=
  find?_reverse_cons ..

theorem lastEncoding?_lasting_of_none (unknown : lastEncoding? registered id = none) :
    lastEncoding? (lasting registered) id = none := by
  rw [lastEncoding?_eq_none_iff] at unknown ⊢
  exact fun k member => unknown k ((lasting_sublist registered).subset member)

/-- If the last type with an encoding was replaced by one that has it too, that is the last one
itself, and so the last one with the encoding among those that were not replaced. -/
theorem lastEncoding?_lasting {replaced : κ} (last : lastEncoding? registered id = some replaced)
    (found : typeAt? ⟨registered⟩ (descriptor replaced).dataTypeId = some k)
    (encodes : (descriptor k).encodes id = true) :
    lastEncoding? (lasting registered) id = some k := by
  induction registered with
  | nil => cases last
  | cons first later ih =>
    rw [lastEncoding?_cons] at last
    -- Whether a later type has the encoding too settles which type is the replaced one.
    cases onward : lastEncoding? later id with
    | some other =>
      rw [onward, Option.some_or] at last
      cases last
      obtain ⟨member, -⟩ := lastEncoding?_some onward
      rw [typeAt?_cons_of_mem member] at found
      have kept := ih onward found
      rw [lasting_cons]
      split
      · exact kept
      · rw [lastEncoding?_cons, kept, Option.some_or]
    | none =>
      rw [onward, Option.none_or, Option.ite_none_right_eq_some, Option.some.injEq] at last
      obtain ⟨-, rfl⟩ := last
      rw [typeAt?_cons, if_pos rfl] at found
      cases there : typeAt? ⟨later⟩ (descriptor first).dataTypeId with
      | some other =>
        rw [there, Option.some_or] at found
        cases found
        rw [lastEncoding?_eq_none_iff.mp onward k (typeAt?_some there).1] at encodes
        cases encodes
      | none =>
        rw [there, Option.none_or] at found
        cases found
        have none_kept := lastEncoding?_lasting_of_none onward
        rw [lasting_cons, there, lastEncoding?_cons, none_kept, Option.none_or, if_pos encodes]

/-! ### Lookups -/

theorem lookup?_lasting_of_foreign (foreign : typeAt? ⟨registered⟩ id = none) :
    lookup? ⟨lasting registered⟩ id = lastEncoding? (lasting registered) id := by
  rw [lookup?_of_foreign (by rw [typeAt?_lasting, foreign])]
  cases found : lastEncoding? (lasting registered) id with
  | none => rfl
  | some k =>
    obtain ⟨member, -⟩ := lastEncoding?_some found
    rw [Option.bind_some, typeAt?_lasting, typeAt?_of_mem_lasting member]

theorem not_mem_ids_of_stale (stale : Stale registered id) :
    ∃ k ∈ lasting registered, lookup? ⟨registered⟩ id = some k ∧ id ∉ (descriptor k).ids := by
  obtain ⟨nobodys, replaced, k, last, came, without⟩ := stale
  have found := typeAt?_eq_some_iff (r := ⟨registered⟩).mpr came
  refine ⟨k, mem_lasting_of_typeAt? found, ?_, ?_⟩
  · rw [lookup?_of_foreign (typeAt?_eq_none_iff.mpr nobodys), lastEncoding?_eq_some_iff.mpr last,
      Option.bind_some, found]
  · intro among
    rcases TypeDescriptor.mem_ids.mp among with own | encodes
    · exact nobodys k (typeAt?_some found).1 own
    · rw [without] at encodes
      cases encodes

theorem mem_ids_of_lookup?_lasting (found : lookup? ⟨lasting registered⟩ id = some k) :
    k ∈ lasting registered ∧ id ∈ (descriptor k).ids := by
  cases own : typeAt? ⟨registered⟩ id with
  | some other =>
    rw [lookup?_of_typeAt? ((typeAt?_lasting registered id).trans own)] at found
    cases found
    exact ⟨mem_lasting_of_typeAt? own, TypeDescriptor.mem_ids.mpr (.inl (typeAt?_some own).2)⟩
  | none =>
    rw [lookup?_lasting_of_foreign own] at found
    obtain ⟨member, encodes⟩ := lastEncoding?_some found
    exact ⟨member, TypeDescriptor.mem_ids.mpr (.inr encodes)⟩

theorem lookup?_lasting_eq_none_iff :
    lookup? ⟨lasting registered⟩ id = none ↔
      ∀ k ∈ lasting registered, id ∉ (descriptor k).ids := by
  constructor
  · intro unfound k member among
    obtain ⟨other, found⟩ := exists_lookup? member among
    rw [unfound] at found
    cases found
  · intro nobodys
    rw [Option.eq_none_iff_forall_ne_some]
    intro k found
    obtain ⟨member, among⟩ := mem_ids_of_lookup?_lasting found
    exact nobodys k member among

theorem lookup?_lasting_of_not_stale (fresh : ¬ Stale registered id) :
    lookup? ⟨lasting registered⟩ id = lookup? ⟨registered⟩ id := by
  cases own : typeAt? ⟨registered⟩ id with
  | some k =>
    rw [lookup?_of_typeAt? own, lookup?_of_typeAt? ((typeAt?_lasting registered id).trans own)]
  | none =>
    rw [lookup?_lasting_of_foreign own, lookup?_of_foreign own]
    cases last : lastEncoding? registered id with
    | none => rw [lastEncoding?_lasting_of_none last, Option.bind_none]
    | some replaced =>
      rw [Option.bind_some]
      cases found : typeAt? ⟨registered⟩ (descriptor replaced).dataTypeId with
      | none =>
        obtain ⟨member, -⟩ := lastEncoding?_some last
        exact absurd rfl (typeAt?_eq_none_iff.mp found replaced member)
      | some k =>
        have came := typeAt?_eq_some_iff (r := ⟨registered⟩).mp found
        have encodes : (descriptor k).encodes id = true := by
          rw [← Bool.not_eq_false]
          intro without
          exact fresh ⟨typeAt?_eq_none_iff.mp own, replaced, k,
            lastEncoding?_eq_some_iff.mp last, came, without⟩
        exact lastEncoding?_lasting last found encodes

/-- Types are found as if only the last with each id had been registered, except by a stale
encoding, which is found to stand for a type that has other ids. If only those types are registered,
a type is found by its own ids alone, and something by each of them. -/
theorem lookups_of_replaced (registered : List κ) (id : QualifiedId) :
    (lookup? ⟨lasting registered⟩ id = lookup? ⟨registered⟩ id ↔ ¬ Stale registered id) ∧
    (Stale registered id →
      ∃ k ∈ lasting registered, lookup? ⟨registered⟩ id = some k ∧ id ∉ (descriptor k).ids) ∧
    (∀ k, lookup? ⟨lasting registered⟩ id = some k →
      k ∈ lasting registered ∧ id ∈ (descriptor k).ids) ∧
    (lookup? ⟨lasting registered⟩ id = none ↔
      ∀ k ∈ lasting registered, id ∉ (descriptor k).ids) := by
  refine ⟨⟨fun alike stale => ?_, lookup?_lasting_of_not_stale⟩, not_mem_ids_of_stale,
    fun k => mem_ids_of_lookup?_lasting, lookup?_lasting_eq_none_iff⟩
  obtain ⟨k, -, found, foreign⟩ := not_mem_ids_of_stale stale
  exact foreign (mem_ids_of_lookup?_lasting (alike.trans found)).2

/-- A sensor, and what came in its place with encodings of its own. -/
def sensor (encoding : UInt32) : StructureDeclaration where
  descriptor := {
    name := "Sensor", namespaceUri := "urn:plant", dataType := 1000, binaryEncoding := encoding,
    xmlEncoding := encoding + 1 }
  fields := []

/-- The encoding of a sensor that has been replaced still stands for the type in its place. -/
theorem not_replaced_of_sensor :
    lookup? ⟨[sensor 1001, sensor 1101]⟩ (.numeric "urn:plant" 1001) = some (sensor 1101) ∧
      lookup? ⟨lasting [sensor 1001, sensor 1101]⟩ (.numeric "urn:plant" 1001) = none ∧
      ¬ ∀ (registered : List StructureDeclaration) (id : QualifiedId),
        lookup? ⟨registered⟩ id = lookup? ⟨lasting registered⟩ id := by
  have found : lookup? ⟨[sensor 1001, sensor 1101]⟩ (.numeric "urn:plant" 1001) =
      some (sensor 1101) := by decide
  have unfound : lookup? ⟨lasting [sensor 1001, sensor 1101]⟩ (.numeric "urn:plant" 1001) =
      none := by decide
  refine ⟨found, unfound, fun alike => ?_⟩
  rw [alike, unfound] at found
  cases found

end OpcUa.TypeRegistry
