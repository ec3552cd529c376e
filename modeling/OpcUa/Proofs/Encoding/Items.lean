import OpcUa.Proofs.Encoding.Typing

/-!
# Items of decoded arrays

An array is decoded envelope by envelope. It fails only where a body within the limit is of a type
whose namespace index the reader's table does not have, and with the fault of the first such
envelope. Whatever else is wrong with an envelope leaves its place empty.
-/

namespace OpcUa

open StructureFamily

theorem NamespaceTable.qualify_eq_error_iff {t : NamespaceTable} {id : ExpandedNodeId}
    {fault : Fault} :
    t.qualify id = .error fault ↔ id.namespaceUri = none ∧ t.size ≤ id.namespaceIndex.toNat ∧
      fault = .namespaceIndexUnknown id.namespaceIndex id.toText := by
  unfold qualify
  cases id.namespaceUri with
  | some uri => simp
  | none =>
    have beyond : t.uri? id.namespaceIndex = none ↔ t.size ≤ id.namespaceIndex.toNat :=
      List.getElem?_eq_none_iff
    cases found : t.uri? id.namespaceIndex with
    | some uri => simp [← beyond, found]
    | none => simp [beyond.mp found, eq_comm]

namespace EncoderContext

variable {κ : Type} [StructureFamily κ] {c : EncoderContext κ} {now : Instant}
  {sender : Option NamespaceTable} {o : ExtensionObject κ} {envelope : Option (ExtensionObject κ)}
  {fault : Fault}

/-- A body within the limit whose type id names its namespace by an index beyond the table. -/
def Unplaced (c : EncoderContext κ) (sender : Option NamespaceTable) (o : ExtensionObject κ) :
    Prop :=
  (∃ bytes, o.body = .encoded bytes ∧ bytes.length ≤ c.limits.byteStringLength.toNat) ∧
    o.typeId.namespaceUri = none ∧
    (sender.getD c.namespaces).size ≤ o.typeId.namespaceIndex.toNat

/-- What leaves a place of an array empty. -/
inductive Lost (c : EncoderContext κ) (now : Instant) (sender : Option NamespaceTable) :
    Option (ExtensionObject κ) → Prop
  | absent : Lost c now sender none
  | empty {o : ExtensionObject κ} (body : o.body = .empty) : Lost c now sender (some o)
  | oversized {o : ExtensionObject κ} {bytes : List UInt8} (body : o.body = .encoded bytes)
      (exceeds : c.limits.byteStringLength.toNat < bytes.length) : Lost c now sender (some o)
  | unregistered {o : ExtensionObject κ} {bytes : List UInt8} {id : QualifiedId}
      (body : o.body = .encoded bytes)
      (qualified : (sender.getD c.namespaces).qualify o.typeId = .ok id)
      (unknown : c.registry.lookup? id = none) : Lost c now sender (some o)
  | unreadable {o : ExtensionObject κ} {bytes : List UInt8} {id : QualifiedId} {k : κ}
      (body : o.body = .encoded bytes)
      (qualified : (sender.getD c.namespaces).qualify o.typeId = .ok id)
      (registered : c.registry.lookup? id = some k)
      (unread : (Json.parse? bytes).bind (ofJson? now k) = none) : Lost c now sender (some o)

/-- What decoding an envelope comes to, and why. -/
inductive Decodes (c : EncoderContext κ) (now : Instant) (sender : Option NamespaceTable)
    (o : ExtensionObject κ) : Except Fault (Option (Structure κ)) → Prop
  | empty (body : o.body = .empty) : Decodes c now sender o (.ok none)
  | kept {value : Structure κ} (body : o.body = .decoded value) :
      Decodes c now sender o (.ok (some value))
  | oversized {bytes : List UInt8} (body : o.body = .encoded bytes)
      (exceeds : c.limits.byteStringLength.toNat < bytes.length) :
      Decodes c now sender o
        (.error (.bodyOverLimit bytes.length c.limits.byteStringLength.toNat))
  | unplaced (unplaced : c.Unplaced sender o) :
      Decodes c now sender o
        (.error (.namespaceIndexUnknown o.typeId.namespaceIndex o.typeId.toText))
  | unregistered {bytes : List UInt8} {id : QualifiedId} (body : o.body = .encoded bytes)
      (fits : bytes.length ≤ c.limits.byteStringLength.toNat)
      (qualified : (sender.getD c.namespaces).qualify o.typeId = .ok id)
      (unknown : c.registry.lookup? id = none) : Decodes c now sender o (.ok none)
  | unreadable {bytes : List UInt8} {id : QualifiedId} {k : κ} (body : o.body = .encoded bytes)
      (fits : bytes.length ≤ c.limits.byteStringLength.toNat)
      (qualified : (sender.getD c.namespaces).qualify o.typeId = .ok id)
      (registered : c.registry.lookup? id = some k)
      (unread : (Json.parse? bytes).bind (ofJson? now k) = none) :
      Decodes c now sender o (.error (.bodyUnreadable (descriptor k).name))
  | read {bytes : List UInt8} {id : QualifiedId} {k : κ} {value : Value k}
      (body : o.body = .encoded bytes)
      (fits : bytes.length ≤ c.limits.byteStringLength.toNat)
      (qualified : (sender.getD c.namespaces).qualify o.typeId = .ok id)
      (registered : c.registry.lookup? id = some k)
      (parsed : (Json.parse? bytes).bind (ofJson? now k) = some value) :
      Decodes c now sender o (.ok (some ⟨k, value⟩))

theorem decodes_decode (c : EncoderContext κ) (now : Instant) (sender : Option NamespaceTable)
    (o : ExtensionObject κ) : Decodes c now sender o (o.decode c now sender) := by
  unfold ExtensionObject.decode
  split
  · exact .empty ‹_›
  · exact .kept ‹_›
  · rename_i bytes body
    split
    · exact .oversized body ‹_›
    · rename_i within
      have fits := Nat.le_of_not_lt within
      split
      · rename_i fault failed
        obtain ⟨noUri, beyond, rfl⟩ := NamespaceTable.qualify_eq_error_iff.mp failed
        exact .unplaced ⟨⟨bytes, body, fits⟩, noUri, beyond⟩
      · rename_i id qualified
        split
        · exact .unregistered body fits qualified ‹_›
        · rename_i k registered
          unfold decodeBody
          split
          · exact .read body fits qualified registered ‹_›
          · exact .unreadable body fits qualified registered ‹_›

theorem decodes_iff {outcome : Except Fault (Option (Structure κ))} :
    Decodes c now sender o outcome ↔ o.decode c now sender = outcome := by
  refine ⟨fun decodes => ?_, fun decoded => decoded ▸ decodes_decode c now sender o⟩
  unfold ExtensionObject.decode
  cases decodes with
  | empty body => simp only [body]
  | kept body => simp only [body]
  | oversized body exceeds => simp only [body, if_pos exceeds]
  | unplaced unplaced =>
    obtain ⟨⟨bytes, body, fits⟩, noUri, beyond⟩ := unplaced
    have failed := NamespaceTable.qualify_eq_error_iff.mpr ⟨noUri, beyond, rfl⟩
    simp only [body, if_neg (Nat.not_lt.mpr fits), failed]
  | unregistered body fits qualified unknown =>
    simp only [body, if_neg (Nat.not_lt.mpr fits), qualified, unknown]
  | unreadable body fits qualified registered unread =>
    simp only [body, if_neg (Nat.not_lt.mpr fits), qualified, registered, decodeBody, unread]
    rfl
  | read body fits qualified registered parsed =>
    simp only [body, if_neg (Nat.not_lt.mpr fits), qualified, registered, decodeBody, parsed]
    rfl

/-! ### One item -/

theorem decodeItem_eq_error_iff :
    c.decodeItem now sender envelope = .error fault ↔ ∃ o, envelope = some o ∧
      c.Unplaced sender o ∧
      fault = .namespaceIndexUnknown o.typeId.namespaceIndex o.typeId.toText := by
  constructor
  · intro failed
    cases envelope with
    | none => cases failed
    | some o =>
      obtain ⟨outcome, decoded⟩ : ∃ outcome, o.decode c now sender = outcome := ⟨_, rfl⟩
      rw [decodeItem, decoded] at failed
      cases decodes_iff.mpr decoded with
      | unplaced unplaced =>
        cases failed
        exact ⟨o, rfl, unplaced, rfl⟩
      | empty | kept | oversized | unregistered | unreadable | read => cases failed
  · rintro ⟨o, rfl, unplaced, rfl⟩
    rw [decodeItem, decodes_iff.mp (.unplaced unplaced)]
    rfl

theorem decodeItem_of_oversized {bytes : List UInt8} (body : o.body = .encoded bytes)
    (exceeds : c.limits.byteStringLength.toNat < bytes.length) :
    c.decodeItem now sender (some o) = .ok none := by
  rw [decodeItem, decodes_iff.mp (.oversized body exceeds)]
  rfl

theorem decodeItem_eq_none_iff :
    c.decodeItem now sender envelope = .ok none ↔ c.Lost now sender envelope := by
  constructor
  · intro lost
    cases envelope with
    | none => exact .absent
    | some o =>
      obtain ⟨outcome, decoded⟩ : ∃ outcome, o.decode c now sender = outcome := ⟨_, rfl⟩
      rw [decodeItem, decoded] at lost
      cases decodes_iff.mpr decoded with
      | empty body => exact .empty body
      | oversized body exceeds => exact .oversized body exceeds
      | unregistered body _ qualified unknown => exact .unregistered body qualified unknown
      | unreadable body _ qualified registered unread =>
        exact .unreadable body qualified registered unread
      | kept | unplaced | read => cases lost
  · intro lost
    cases lost with
    | absent => rfl
    | empty body => rw [decodeItem, decodes_iff.mp (.empty body)]
    | oversized body exceeds => exact decodeItem_of_oversized body exceeds
    -- A body that is too long is not looked into, but its place is empty all the same.
    | @unregistered o bytes id body qualified unknown =>
      rcases Nat.lt_or_ge c.limits.byteStringLength.toNat bytes.length with exceeds | fits
      · exact decodeItem_of_oversized body exceeds
      · rw [decodeItem, decodes_iff.mp (.unregistered body fits qualified unknown)]
    | @unreadable o bytes id k body qualified registered unread =>
      rcases Nat.lt_or_ge c.limits.byteStringLength.toNat bytes.length with exceeds | fits
      · exact decodeItem_of_oversized body exceeds
      · rw [decodeItem, decodes_iff.mp (.unreadable body fits qualified registered unread)]
        rfl

theorem decodeItem_eq_some_iff {value : Structure κ} :
    c.decodeItem now sender envelope = .ok (some value) ↔
      ∃ o, envelope = some o ∧ o.decode c now sender = .ok (some value) := by
  cases envelope with
  | none => simp [decodeItem]
  | some o =>
    simp only [Option.some.injEq, exists_eq_left', decodeItem]
    cases o.decode c now sender with
    | ok item => rfl
    | error fault => by_cases decoding : fault.kind = .decoding <;> simp [decoding]

/-! ### Arrays -/

theorem decodeItems_eq_error_iff {envelopes : List (Option (ExtensionObject κ))} :
    c.decodeItems now sender envelopes = .error fault ↔
      ∃ before o after, envelopes = before ++ some o :: after ∧
        (∀ passed, some passed ∈ before → ¬ c.Unplaced sender passed) ∧ c.Unplaced sender o ∧
        fault = .namespaceIndexUnknown o.typeId.namespaceIndex o.typeId.toText := by
  have whole : c.decodeItems now sender envelopes = .error fault ↔
      envelopes.mapM (c.decodeItem now sender) = .error fault := by
    unfold decodeItems
    cases envelopes.mapM (c.decodeItem now sender) <;> simp [bind, Except.bind, pure, Except.pure]
  have passes (before : List (Option (ExtensionObject κ))) :
      (∀ envelope ∈ before, ∃ item, c.decodeItem now sender envelope = .ok item) ↔
        ∀ passed, some passed ∈ before → ¬ c.Unplaced sender passed := by
    constructor
    · intro decoded passed member unplaced
      obtain ⟨item, found⟩ := decoded _ member
      rw [decodeItem_eq_error_iff.mpr ⟨passed, rfl, unplaced, rfl⟩] at found
      cases found
    · intro placed envelope member
      cases found : c.decodeItem now sender envelope with
      | ok item => exact ⟨item, rfl⟩
      | error fault =>
        obtain ⟨o, rfl, unplaced, -⟩ := decodeItem_eq_error_iff.mp found
        exact (placed o member unplaced).elim
  rw [whole, mapM_eq_error_iff]
  simp only [passes, decodeItem_eq_error_iff]
  constructor
  · rintro ⟨before, _, after, placed, passed, o, rfl, unplaced, same⟩
    exact ⟨before, o, after, placed, passed, unplaced, same⟩
  · rintro ⟨before, o, after, placed, passed, unplaced, same⟩
    exact ⟨before, some o, after, placed, passed, o, rfl, unplaced, same⟩

theorem exists_decodeItems_iff {envelopes : List (Option (ExtensionObject κ))} :
    (∃ a, c.decodeItems now sender envelopes = .ok a) ↔
      ∀ o, some o ∈ envelopes → ¬ c.Unplaced sender o := by
  constructor
  · rintro ⟨a, decoded⟩ o member unplaced
    have found := (decodeItems_eq_ok_iff.mp decoded).1
    have failed : .error _ ∈ envelopes.map (c.decodeItem now sender) :=
      List.mem_map.mpr ⟨_, member, decodeItem_eq_error_iff.mpr ⟨o, rfl, unplaced, rfl⟩⟩
    rw [found] at failed
    obtain ⟨_, -, same⟩ := List.mem_map.mp failed
    cases same
  · intro placed
    cases decoded : c.decodeItems now sender envelopes with
    | ok a => exact ⟨a, rfl⟩
    | error fault =>
      obtain ⟨before, o, after, rfl, -, unplaced, -⟩ := decodeItems_eq_error_iff.mp decoded
      exact (placed o (List.mem_append_right _ List.mem_cons_self) unplaced).elim

theorem getElem?_items_iff {envelopes : List (Option (ExtensionObject κ))} {a : DecodedArray κ}
    (decoded : c.decodeItems now sender envelopes = .ok a) {i : Nat}
    (here : envelopes[i]? = some envelope) {item : Option (Structure κ)} :
    a.items[i]? = some item ↔ c.decodeItem now sender envelope = .ok item := by
  have same := congrArg (·[i]?) (decodeItems_eq_ok_iff.mp decoded).1
  simp only [List.getElem?_map, here, Option.map_some] at same
  cases there : a.items[i]? with
  | none => simp [there] at same
  | some other =>
    have same : c.decodeItem now sender envelope = .ok other := by simpa [there] using same
    simp [same]

/-- An array is decoded unless an envelope of it cannot be placed, and the first such envelope gives
the fault. Every item has the place of its envelope and is empty just when that holds nothing that
can be decoded. A limited array differs only in being refused for its length. -/
theorem items_of_decoded (c : EncoderContext κ) (now : Instant) (sender : Option NamespaceTable)
    (envelopes : List (Option (ExtensionObject κ))) :
    (∀ fault, c.decodeItems now sender envelopes = .error fault ↔
      ∃ before o after, envelopes = before ++ some o :: after ∧
        (∀ passed, some passed ∈ before → ¬ c.Unplaced sender passed) ∧ c.Unplaced sender o ∧
        fault = .namespaceIndexUnknown o.typeId.namespaceIndex o.typeId.toText ∧
        fault.kind = .unresolvedNamespace) ∧
    ((∃ a, c.decodeItems now sender envelopes = .ok a) ↔
      ∀ o, some o ∈ envelopes → ¬ c.Unplaced sender o) ∧
    (∀ a, c.decodeItems now sender envelopes = .ok a →
      a.items.length = envelopes.length ∧
      ∀ (i : Nat) (envelope : Option (ExtensionObject κ)), envelopes[i]? = some envelope →
        (a.items[i]? = some none ↔ c.Lost now sender envelope) ∧
        ∀ value, a.items[i]? = some (some value) ↔
          ∃ o, envelope = some o ∧ o.decode c now sender = .ok (some value)) ∧
    (envelopes.length ≤ c.limits.arrayLength.toNat →
      c.decodeArray now sender envelopes = c.decodeItems now sender envelopes) ∧
    (c.limits.arrayLength.toNat < envelopes.length →
      ∃ fault, c.decodeArray now sender envelopes = .error fault ∧ fault.kind = .decoding) := by
  refine ⟨fun fault => ?_, exists_decodeItems_iff, fun a decoded => ?_, fun fits => ?_,
    fun exceeds => ?_⟩
  · rw [decodeItems_eq_error_iff]
    constructor
    · rintro ⟨before, o, after, placed, passed, unplaced, rfl⟩
      exact ⟨before, o, after, placed, passed, unplaced, rfl, rfl⟩
    · rintro ⟨before, o, after, placed, passed, unplaced, rfl, -⟩
      exact ⟨before, o, after, placed, passed, unplaced, rfl⟩
  · have length := congrArg List.length (decodeItems_eq_ok_iff.mp decoded).1
    rw [List.length_map, List.length_map] at length
    refine ⟨length.symm, fun i envelope here => ⟨?_, fun value => ?_⟩⟩
    · exact (getElem?_items_iff decoded here).trans decodeItem_eq_none_iff
    · exact (getElem?_items_iff decoded here).trans decodeItem_eq_some_iff
  · exact if_neg (Nat.not_lt.mpr fits)
  · exact ⟨_, if_pos exceeds, rfl⟩

end EncoderContext

/-- The standard context with byte strings of at most one byte. -/
def ExtensionObject.tightContext : EncoderContext StandardKind :=
  (EncoderContext.standard id).withLimits { maxByteStringLength := 1 }

namespace EncoderContext

open ExtensionObject

/-- Nothing, a body that is too long for `tightContext`, one of a type that is not registered, and
one that cannot be placed. The index of the second has no place either. -/
def mixedEnvelopes : List (Option (ExtensionObject StandardKind)) :=
  [none, some ⟨{ namespaceIndex := 9, identifier := .numeric 1 }, .encoded [0x7B, 0x7D]⟩,
    some ⟨{ identifier := .numeric 1 }, .encoded []⟩,
    some ⟨{ namespaceIndex := 7, identifier := .numeric 1 }, .encoded []⟩]

theorem items_of_mixed :
    tightContext.decodeItems .epoch none mixedEnvelopes =
        .error (.namespaceIndexUnknown 7 "ns=7;i=1") ∧
      ∃ a, tightContext.decodeArray .epoch none (mixedEnvelopes.take 3) = .ok a ∧
        a.items.length = 3 ∧ a.items[1]? = some none := by
  have long : tightContext.limits.byteStringLength.toNat < [0x7B, 0x7D].length := by decide
  have placed : ∀ o, some o ∈ mixedEnvelopes.take 3 → ¬ tightContext.Unplaced none o := by
    rintro o member ⟨⟨bytes, body, fits⟩, -, beyond⟩
    rcases List.mem_cons.mp member with absent | member
    · cases absent
    rcases List.mem_cons.mp member with same | member
    · cases same
      cases body
      exact Nat.not_le_of_lt long fits
    · cases List.mem_singleton.mp member
      exact absurd beyond (by decide)
  have whole := (items_of_decoded tightContext .epoch none mixedEnvelopes).1
  obtain ⟨-, decodes, items, limited, -⟩ :=
    items_of_decoded tightContext .epoch none (mixedEnvelopes.take 3)
  obtain ⟨a, decoded⟩ := decodes.mpr placed
  obtain ⟨length, places⟩ := items a decoded
  refine ⟨(whole _).mpr ⟨mixedEnvelopes.take 3, _, [], rfl, placed,
    ⟨⟨[], rfl, by decide⟩, rfl, by decide⟩, rfl, rfl⟩, a, ?_, length, ?_⟩
  · rw [limited (by decide), decoded]
  · exact (places 1 _ rfl).1.mpr (.oversized rfl long)

end EncoderContext

end OpcUa
