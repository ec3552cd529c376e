import OpcUa.Proofs.Json.Record

/-!
# The order of members

Putting the members of every object in order leaves a value as readable, as deep and as long as it
was, and no reader of a typed value sees a difference. A record is read alike in both orders, since
under each name stands the same member, itself in order.
-/

namespace OpcUa.Json

open OpcUa.Text

variable {α : Type}

/-! ### Values in order -/

theorem sortedItems_eq_map (items : List Json) : sortedItems items = items.map sorted := by
  induction items with
  | nil => rfl
  | cons item items ih => rw [sortedItems, ih, List.map_cons]

theorem sortedMembers_eq_map (members : List (String × Json)) :
    sortedMembers members = members.map (Prod.map id sorted) := by
  induction members with
  | nil => rfl
  | cons entry members ih =>
    rw [sortedMembers, ih, List.map_cons]
    rfl

theorem sorted_list (items : List Json) : sorted (.list items) = .list (items.map sorted) := by
  rw [sorted, sortedItems_eq_map]

/-- The members in order are the members, each one in order. -/
theorem exists_sorted_object (members : List (String × Json)) :
    ∃ others, sorted (.object members) = .object others ∧
      others.Perm (sortedMembers members) :=
  ⟨_, by rw [sorted], List.mergeSort_perm _ _⟩

theorem IsPlain.sorted {depth : Nat} {value : Json} (plain : IsPlain depth value) :
    IsPlain depth value.sorted := by
  induction plain with
  | null => exact .null
  | bool value => exact .bool value
  | int lower upper => exact .int lower upper
  | text value => exact .text value
  | @list _ items _ ih =>
    rw [sorted_list]
    refine .list fun item within => ?_
    obtain ⟨item, member, rfl⟩ := List.mem_map.mp within
    exact ih item member
  | @object _ members _ ih =>
    obtain ⟨others, given, same⟩ := exists_sorted_object members
    rw [given]
    refine .object fun member within => ?_
    rw [same.mem_iff, sortedMembers_eq_map] at within
    obtain ⟨member, before, rfl⟩ := List.mem_map.mp within
    exact ih member before

theorem readableMembers_perm {members others : List (String × Json)} (same : others.Perm members) :
    readableMembers others = readableMembers members := by
  rw [Bool.eq_iff_iff, readableMembers_iff, readableMembers_iff]
  exact forall_congr' fun member => imp_congr_left same.mem_iff

theorem depthMembers_perm {members others : List (String × Json)} (same : others.Perm members) :
    depthMembers others = depthMembers members := by
  have below (limit : Nat) : depthMembers others ≤ limit ↔ depthMembers members ≤ limit := by
    rw [depthMembers_le_iff, depthMembers_le_iff]
    exact forall_congr' fun member => imp_congr_left same.mem_iff
  exact Nat.le_antisymm ((below _).mpr (Nat.le_refl _)) ((below _).mp (Nat.le_refl _))

mutual

theorem isReadable_sorted (value : Json) : value.sorted.isReadable = value.isReadable := by
  match value with
  | .null | .bool _ | .int _ | .real _ | .text _ | .unreadable => rfl
  | .list items => rw [sorted, isReadable, readableItems_sorted, isReadable]
  | .object members =>
    obtain ⟨others, given, same⟩ := exists_sorted_object members
    rw [given, isReadable, readableMembers_perm same, readableMembers_sorted, isReadable]

theorem readableItems_sorted (items : List Json) :
    readableItems (sortedItems items) = readableItems items := by
  match items with
  | [] => rfl
  | item :: rest =>
    rw [sortedItems, readableItems, isReadable_sorted, readableItems_sorted, readableItems]

theorem readableMembers_sorted (members : List (String × Json)) :
    readableMembers (sortedMembers members) = readableMembers members := by
  match members with
  | [] => rfl
  | (_, value) :: rest =>
    rw [sortedMembers, readableMembers, isReadable_sorted, readableMembers_sorted, readableMembers]

end

mutual

theorem depth_sorted (value : Json) : value.sorted.depth = value.depth := by
  match value with
  | .null | .bool _ | .int _ | .real _ | .text _ | .unreadable => rfl
  | .list items => rw [sorted, depth, depthItems_sorted, depth]
  | .object members =>
    obtain ⟨others, given, same⟩ := exists_sorted_object members
    rw [given, depth, depthMembers_perm same, depthMembers_sorted, depth]

theorem depthItems_sorted (items : List Json) :
    depthItems (sortedItems items) = depthItems items := by
  match items with
  | [] => rfl
  | item :: rest => rw [sortedItems, depthItems, depth_sorted, depthItems_sorted, depthItems]

theorem depthMembers_sorted (members : List (String × Json)) :
    depthMembers (sortedMembers members) = depthMembers members := by
  match members with
  | [] => rfl
  | (_, value) :: rest =>
    rw [sortedMembers, depthMembers, depth_sorted, depthMembers_sorted, depthMembers]

end

theorem isKept_sorted (limit : Nat) (value : Json) :
    isKept limit value.sorted = isKept limit value := by
  rw [isKept, isReadable_sorted, depth_sorted, isKept]

/-! ### The length of the compact form -/

theorem length_charsOfMembers_perm {members others : List (String × Json)}
    (same : others.Perm members) :
    (utf8 (charsOfMembers others)).length = (utf8 (charsOfMembers members)).length := by
  induction same with
  | nil => rfl
  | cons entry _ ih => simp [charsOfMembers, ih]
  | swap =>
    simp only [charsOfMembers, utf8_cons, utf8_append, List.length_append]
    omega
  | trans _ _ first second => rw [first, second]

theorem length_chars_object {members : List (String × Json)} (inhabited : members ≠ []) :
    (utf8 (chars (.object members))).length = (utf8 (charsOfMembers members)).length := by
  obtain ⟨⟨name, value⟩, rest, rfl⟩ := List.exists_cons_of_ne_nil inhabited
  simp only [chars, charsOfMembers, utf8_cons, List.length_append]
  -- An object is opened by as many bytes as it goes on with after a member.
  rfl

mutual

theorem length_chars_sorted (value : Json) :
    (utf8 (chars value.sorted)).length = (utf8 (chars value)).length := by
  match value with
  | .null | .bool _ | .int _ | .real _ | .text _ | .unreadable => rfl
  | .list [] => rfl
  | .list (item :: rest) =>
    simp [sorted, sortedItems, chars, length_chars_sorted, length_charsOfItems_sorted]
  | .object [] => simp [sorted, sortedMembers]
  | .object (entry :: rest) =>
    obtain ⟨others, given, same⟩ := exists_sorted_object (entry :: rest)
    have inhabited : others ≠ [] := by
      rintro rfl
      simpa [sortedMembers] using same.length_eq
    rw [given, length_chars_object inhabited, length_charsOfMembers_perm same,
      length_charsOfMembers_sorted, length_chars_object (List.cons_ne_nil _ _)]

theorem length_charsOfItems_sorted (items : List Json) :
    (utf8 (charsOfItems (sortedItems items))).length = (utf8 (charsOfItems items)).length := by
  match items with
  | [] => rfl
  | item :: rest =>
    simp [sortedItems, charsOfItems, length_chars_sorted, length_charsOfItems_sorted]

theorem length_charsOfMembers_sorted (members : List (String × Json)) :
    (utf8 (charsOfMembers (sortedMembers members))).length =
      (utf8 (charsOfMembers members)).length := by
  match members with
  | [] => rfl
  | (name, value) :: rest =>
    simp [sortedMembers, charsOfMembers, length_chars_sorted, length_charsOfMembers_sorted]

end

theorem length_bytes_sorted (value : Json) : value.sorted.bytes.length = value.bytes.length := by
  rw [bytes_eq_utf8, length_chars_sorted, bytes_eq_utf8]

/-! ### Readers -/

/-- The reader takes a value in order for the value itself. -/
def IgnoresOrder {β : Type} (read : Json → β) : Prop :=
  ∀ value, read value.sorted = read value

/-- Nothing is put in order but lists and objects. -/
theorem ignoresOrder_of_leaf {read : Json → Option α} (list : ∀ items, read (.list items) = none)
    (object : ∀ members, read (.object members) = none) : IgnoresOrder read := by
  intro value
  cases value with
  | null | bool | int | real | text | unreadable => rfl
  | list items => rw [sorted_list, list, list]
  | object members => rw [sorted, object, object]

@[simp] theorem ignoresOrder_asText? : IgnoresOrder asText? :=
  ignoresOrder_of_leaf (fun _ => rfl) fun _ => rfl

@[simp] theorem ignoresOrder_asBool? : IgnoresOrder asBool? :=
  ignoresOrder_of_leaf (fun _ => rfl) fun _ => rfl

@[simp] theorem ignoresOrder_asUInt8? : IgnoresOrder asUInt8? :=
  ignoresOrder_of_leaf (fun _ => rfl) fun _ => rfl

@[simp] theorem ignoresOrder_asUInt16? : IgnoresOrder asUInt16? :=
  ignoresOrder_of_leaf (fun _ => rfl) fun _ => rfl

@[simp] theorem ignoresOrder_asUInt32? : IgnoresOrder asUInt32? :=
  ignoresOrder_of_leaf (fun _ => rfl) fun _ => rfl

@[simp] theorem ignoresOrder_asInt32? : IgnoresOrder asInt32? :=
  ignoresOrder_of_leaf (fun _ => rfl) fun _ => rfl

@[simp] theorem ignoresOrder_asBytes? : IgnoresOrder asBytes? :=
  ignoresOrder_of_leaf (fun _ => rfl) fun _ => rfl

@[simp] theorem ignoresOrder_asList? {read : Json → Option α} (ignores : IgnoresOrder read) :
    IgnoresOrder (asList? read) := by
  intro value
  cases value with
  | null | bool | int | real | text | unreadable | object => rfl
  | list items =>
    have each : read ∘ sorted = read := funext ignores
    rw [sorted_list, asList?, List.mapM_map, each, asList?]

@[simp] theorem ignoresOrder_asTexts? : IgnoresOrder asTexts? :=
  ignoresOrder_asList? ignoresOrder_asText?

@[simp] theorem ignoresOrder_asOption? {read : Json → Option α} (ignores : IgnoresOrder read) :
    IgnoresOrder (asOption? read) := by
  intro value
  cases value with
  | null | bool | int | real | text | unreadable => rfl
  -- Only null is absent, and no list or object is put in order as null.
  | list items => exact congrArg (Option.map some) (ignores (.list items))
  | object members => exact congrArg (Option.map some) (ignores (.object members))

@[simp] theorem required_sorted {read : Json → Option α} (ignores : IgnoresOrder read)
    (value : Option Json) : required read (value.map sorted) = required read value := by
  cases value with
  | none => rfl
  | some value => exact ignores value

@[simp] theorem orElse_sorted {read : Json → Option α} (ignores : IgnoresOrder read)
    (fallback : α) (value : Option Json) :
    orElse fallback read (value.map sorted) = orElse fallback read value := by
  cases value with
  | none => rfl
  | some value => exact ignores value

@[simp] theorem optional_sorted {read : Json → Option α} (ignores : IgnoresOrder read)
    (value : Option Json) : optional read (value.map sorted) = optional read value := by
  cases value with
  | none => rfl
  | some value => exact ignoresOrder_asOption? ignores value

/-! ### Records -/

theorem single?_perm (name : String) {members others : List (String × Json)}
    (same : others.Perm members) : single? name others = single? name members := by
  have kept := same.filter (·.1 == name)
  rw [single?, single?]
  generalize others.filter (·.1 == name) = there at kept ⊢
  generalize members.filter (·.1 == name) = here at kept ⊢
  rcases here with _ | ⟨first, _ | ⟨second, rest⟩⟩
  · rw [List.perm_nil.mp kept]
  · rw [List.perm_singleton.mp kept]
  · rcases there with _ | ⟨_, _ | ⟨_, _⟩⟩
    · exact absurd kept.length_eq (by simp)
    · exact absurd kept.length_eq (by simp)
    · rfl

theorem single?_map (name : String) (change : Json → Json) (members : List (String × Json)) :
    single? name (members.map (Prod.map id change)) =
      (single? name members).map (Option.map change) := by
  have kept : (members.map (Prod.map id change)).filter (·.1 == name) =
      (members.filter (·.1 == name)).map (Prod.map id change) := by
    rw [List.filter_map]
    rfl
  rw [single?, kept, single?]
  generalize members.filter (·.1 == name) = here
  rcases here with _ | ⟨_, _ | ⟨_, _⟩⟩ <;> rfl

theorem single?_sorted (name : String) {members others : List (String × Json)}
    (same : others.Perm (sortedMembers members)) :
    single? name others = (single? name members).map (Option.map sorted) := by
  rw [single?_perm name same, sortedMembers_eq_map, single?_map]

theorem mapM_single?_sorted (names : List String) {members others : List (String × Json)}
    (same : others.Perm (sortedMembers members)) :
    names.mapM (fun name => single? name others) =
      (names.mapM fun name => single? name members).map (List.map (Option.map sorted)) := by
  induction names with
  | nil => rfl
  | cons name names ih =>
    rw [List.mapM_cons, List.mapM_cons, ih, single?_sorted name same]
    cases single? name members <;> cases names.mapM fun name => single? name members <;> rfl

theorem fields?_sorted (names : List String) (value : Json) :
    fields? names value.sorted = (fields? names value).map (List.map (Option.map sorted)) := by
  cases value with
  | null | bool | int | real | text | unreadable => rfl
  | list items =>
    rw [sorted_list, fields?, fields?, List.length_map]
    split
    · simp
    · rfl
  | object members =>
    obtain ⟨others, given, same⟩ := exists_sorted_object members
    rw [given]
    exact mapM_single?_sorted names same

theorem keptFields?_sorted (own others : List String) (value : Json) :
    keptFields? own others value.sorted =
      (keptFields? own others value).map (List.map (Option.map sorted)) := by
  cases value with
  | null | bool | int | real | text | unreadable | list => rfl
  | object members =>
    obtain ⟨arranged, given, same⟩ := exists_sorted_object members
    rw [given, keptFields?, keptFields?, same.all_eq, sortedMembers_eq_map, List.all_map]
    simp only [Function.comp_def, Prod.map, id, isKept_sorted]
    split
    · exact mapM_single?_sorted _ same
    · rfl

theorem length_of_mapM {f : String → Option (Option Json)} {names : List String}
    {found : List (Option Json)} (read : names.mapM f = some found) :
    found.length = names.length := by
  induction names generalizing found with
  | nil => cases read; rfl
  | cons name names ih =>
    rw [List.mapM_cons] at read
    obtain ⟨first, -, others, later, rfl⟩ : ∃ first, f name = some first ∧
        ∃ others, names.mapM f = some others ∧ first :: others = found := by
      simpa [Option.bind_eq_some_iff] using read
    rw [List.length_cons, ih later, List.length_cons]

theorem length_of_fields? {names : List String} {value : Json} {found : List (Option Json)}
    (read : fields? names value = some found) : found.length = names.length := by
  cases value with
  | null | bool | int | real | text | unreadable => cases read
  | list items =>
    obtain ⟨fits, rfl⟩ : items.length ≤ names.length ∧
        items.map some ++ List.replicate (names.length - items.length) none = found := by
      simpa [fields?] using read
    rw [List.length_append, List.length_map, List.length_replicate, Nat.add_sub_cancel' fits]
  | object members => exact length_of_mapM read

theorem length_of_keptFields? {own others : List String} {value : Json}
    {found : List (Option Json)} (read : keptFields? own others value = some found) :
    found.length = (own ++ others).length := by
  cases value with
  | null | bool | int | real | text | unreadable | list => cases read
  | object members =>
    rw [keptFields?] at read
    split at read
    · exact length_of_mapM read
    · cases read

/-- A record is read alike in both orders if each of its members is. -/
theorem ignoresOrder_bind {read : Json → Option (List (Option Json))} (n : Nat)
    (sorts : ∀ value, read value.sorted = (read value).map (List.map (Option.map sorted)))
    (arity : ∀ {value found}, read value = some found → found.length = n)
    {make : List (Option Json) → Option α} (each : ∀ found : Fin n → Option Json,
      make (List.ofFn fun i => (found i).map sorted) = make (List.ofFn found)) :
    IgnoresOrder fun value => read value >>= make := by
  intro value
  simp only [sorts]
  match given : read value with
  | none => rfl
  | some found =>
    obtain rfl := arity given
    have same := each fun i => found[i.val]
    rw [← Function.comp_def, ← List.map_ofFn, List.ofFn_getElem] at same
    exact same

theorem ignoresOrder_fields? {names : List String} (n : Nat) (arity : names.length = n)
    {make : List (Option Json) → Option α} (each : ∀ found : Fin n → Option Json,
      make (List.ofFn fun i => (found i).map sorted) = make (List.ofFn found)) :
    IgnoresOrder fun value => fields? names value >>= make :=
  ignoresOrder_bind n (fields?_sorted names) (fun read => (length_of_fields? read).trans arity) each

theorem ignoresOrder_keptFields? {own others : List String} (n : Nat)
    (arity : (own ++ others).length = n) {make : List (Option Json) → Option α}
    (each : ∀ found : Fin n → Option Json,
      make (List.ofFn fun i => (found i).map sorted) = make (List.ofFn found)) :
    IgnoresOrder fun value => keptFields? own others value >>= make :=
  ignoresOrder_bind n (keptFields?_sorted own others)
    (fun read => (length_of_keptFields? read).trans arity) each

/-! ### Choices -/

theorem choice?_sorted (value : Json) :
    choice? value.sorted = (choice? value).map (Prod.map id (Option.map sorted)) := by
  cases value with
  | null | bool | int | real | text | unreadable | list => rfl
  | object members =>
    obtain ⟨others, given, same⟩ := exists_sorted_object members
    rw [given]
    rcases members with _ | ⟨⟨name, value⟩, _ | ⟨_, _⟩⟩
    · rw [List.perm_nil.mp same]
      rfl
    · rw [List.perm_singleton.mp same]
      rfl
    · rcases others with _ | ⟨_, _ | ⟨_, _⟩⟩
      · exact absurd same.length_eq (by simp [sortedMembers])
      · exact absurd same.length_eq (by simp [sortedMembers])
      · rfl

theorem ignoresOrder_plainChoice? (kept : Bool) : IgnoresOrder (plainChoice? kept) := by
  intro value
  rw [plainChoice?, choice?_sorted, plainChoice?]
  rcases choice? value with _ | ⟨name, _ | carried⟩
  · rfl
  · rfl
  · cases carried with
    | null | bool | int | real | text | unreadable | list => rfl
    | object members =>
      -- In order there are as many members as before.
      obtain ⟨others, given, same⟩ := exists_sorted_object members
      simp only [Option.map_some, Prod.map, id, given]
      cases members with
      | nil => rw [List.perm_nil.mp same]
      | cons first members =>
        cases others with
        | nil => exact absurd same.length_eq (by simp [sortedMembers])
        | cons => rfl

@[simp] theorem ignoresOrder_asChoice? (kept : Bool) (all : List (String × α)) :
    IgnoresOrder (asChoice? kept all) := by
  have plain := ignoresOrder_plainChoice? kept
  intro value
  rw [asChoice?, plain, asChoice?]

end OpcUa.Json
