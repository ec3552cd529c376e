import OpcUa.Proofs.Encoding.RoundTrip
import OpcUa.Proofs.Structure.Order

/-!
# Envelopes read back

An envelope is read back from its JSON with the id it had. A body that is empty or encoded is what
it was, and a value that stayed as it is comes back as bytes, with its members in order, which are
decoded as the value.
-/

namespace OpcUa.ExtensionObject

open Json StructureFamily

variable {κ : Type} [StructureFamily κ]

/-- The envelope as its reader gets it, with nothing left that is not encoded. -/
def sealed (o : ExtensionObject κ) : ExtensionObject κ where
  typeId := o.typeId
  body := match o.bodyBytes? with
    | some bytes => .encoded bytes
    | none => .empty

theorem sealed_eq_iff {o : ExtensionObject κ} :
    o.sealed = o ↔ ∀ value, o.body ≠ .decoded value := by
  obtain ⟨id, body⟩ := o
  cases body with
  | empty => simp [sealed, bodyBytes?]
  | encoded bytes => simp [sealed, bodyBytes?]
  | decoded value => simp [sealed, bodyBytes?]

theorem toJson_eq (o : ExtensionObject κ) :
    o.toJson = .object (record [
      ("type_id", some o.typeId.toJson),
      ("body", o.bodyBytes?.map .ofBytes)]) := by
  simp [toJson]

theorem plain_toJson (depth : Nat) (o : ExtensionObject κ) : IsPlain (depth + 4) o.toJson := by
  rw [toJson_eq]
  exact plain_record (by simp)

theorem ofJson?_toJson (o : ExtensionObject κ) : ofJson? o.toJson = some o.sealed := by
  rw [toJson_eq, ofJson?, bind_fields?_record]
  · simp only [List.map_cons, List.map_nil, required_some, ExpandedNodeId.ofJson?_toJson,
      optional_ofBytes]
    rfl
  · rfl
  · decide

theorem read_bytes (o : ExtensionObject κ) :
    (parse? o.toJson.bytes).bind ofJson? = some o.sealed := by
  rw [parse?_bytes (o.plain_toJson 0), Option.bind_some, ofJson?_toJson]

variable {c : EncoderContext StandardKind} {k : StandardKind} {value : k.Value}

theorem sealed_ofStructure (c : EncoderContext StandardKind) (k : StandardKind) (value : k.Value) :
    (ofStructure c ⟨k, value⟩).sealed = ⟨c.encodingExpandedId (descriptor k) .binary,
      .encoded (k.toJson value).sorted.bytes⟩ :=
  rfl

theorem decode_sealed (now : Instant) (standard : c.registry = .standard id)
    (fits : (k.toJson value).sorted.bytes.length ≤ c.limits.byteStringLength.toNat)
    (sender : Option NamespaceTable) :
    (ofStructure c ⟨k, value⟩).sealed.decode c now sender = .ok (some ⟨k, k.spelled value⟩) := by
  rw [sealed_ofStructure, decode_encoded standard k fits,
    decodeBody_of_read (k.read_sorted_bytes now value)]
  rfl

/-- Every structure is read back from its JSON as it is spelled, in the order in which its members
are written and in that of their names. It is spelled as it is just if its time stamps are regular.
Every envelope without a value that stayed as it is is read back from its own JSON. An envelope
around such a value is read back as one that is decoded as the value is spelled, with the table of
any sender, unless its body is longer than a byte string may be. -/
theorem readBack (now : Instant) :
    (∀ (k : StandardKind) (value : k.Value),
      (k.spelled value = value ↔ ∀ t ∈ k.timestamps value, t.IsRegular) ∧
      (parse? (k.toJson value).bytes).bind (k.ofJson? now) = some (k.spelled value) ∧
      (parse? (k.toJson value).sorted.bytes).bind (k.ofJson? now) = some (k.spelled value) ∧
      ∀ c : EncoderContext StandardKind, c.registry = .standard id →
        ∃ back, (parse? (ofStructure c ⟨k, value⟩).toJson.bytes).bind ofJson? = some back ∧
          ((k.toJson value).sorted.bytes.length ≤ c.limits.byteStringLength.toNat →
            back.decodeAs c now k = .ok (k.spelled value) ∧
            ∀ sender, back.decode c now sender = .ok (some ⟨k, k.spelled value⟩))) ∧
    ∀ (κ : Type) [StructureFamily κ] (o : ExtensionObject κ), (∀ s, o.body ≠ .decoded s) →
      (parse? o.toJson.bytes).bind ofJson? = some o := by
  refine ⟨fun k value => ⟨k.spelled_eq_self_iff value, k.read_bytes now value,
    k.read_sorted_bytes now value, fun c standard => ?_⟩, fun κ _ o stays => ?_⟩
  · refine ⟨_, read_bytes _, fun fits => ?_⟩
    have decoded := decode_sealed now standard fits
    exact ⟨decodeAs_of_decode (decoded none), decoded⟩
  · rw [read_bytes, sealed_eq_iff.mpr stays]

/-- An envelope whose body is no JSON. -/
def rawEnvelope : ExtensionObject StandardKind :=
  ⟨.base 391, .encoded [0xFF]⟩

theorem readBack_epochHeader :
    (∃ back, (parse? (ofStructure (.standard id) ⟨.responseHeader, epochHeader⟩).toJson.bytes).bind
        ofJson? = some back ∧
      back.decodeAs (.standard id) .epoch .responseHeader = .ok epochHeader) ∧
    (parse? (StandardKind.responseHeader.toJson epochHeader).sorted.bytes).bind
      (ResponseHeader.ofJson? .epoch) = some epochHeader ∧
    (parse? rawEnvelope.toJson.bytes).bind ofJson? = some rawEnvelope := by
  obtain ⟨structures, envelopes⟩ := readBack .epoch
  obtain ⟨-, -, inOrder, inside⟩ := structures .responseHeader epochHeader
  obtain ⟨back, read, decoded⟩ := inside (.standard id) rfl
  have fits := decoded (by
    rw [length_bytes_sorted, length_epochHeader]
    decide)
  exact ⟨⟨back, read, fits.1⟩, inOrder, envelopes _ rawEnvelope fun _ => nofun⟩

/-- The header of a good answer at some time. -/
def headerAt (timestamp : Instant) : ResponseHeader where
  timestamp := timestamp

/-- A leap second inside a minute has the text of the next second, so a header from there is read
back as one from the next second, in either order of its members. -/
theorem not_readBack_late :
    StandardKind.responseHeader.toJson (headerAt (.mk 4 1333333333)) =
      StandardKind.responseHeader.toJson (headerAt (.mk 5 333333333)) ∧
    (parse? (StandardKind.responseHeader.toJson (headerAt (.mk 4 1333333333))).bytes).bind
      (ResponseHeader.ofJson? .epoch) = some (headerAt (.mk 5 333333333)) ∧
    (parse? (StandardKind.responseHeader.toJson (headerAt (.mk 4 1333333333))).sorted.bytes).bind
      (ResponseHeader.ofJson? .epoch) = some (headerAt (.mk 5 333333333)) ∧
    headerAt (.mk 5 333333333) ≠ headerAt (.mk 4 1333333333) := by
  have same : (Instant.mk 5 333333333).toJson = (Instant.mk 4 1333333333).toJson := by
    have next : (Instant.mk 4 1333333333).spelled = .mk 5 333333333 := by decide
    rw [← next, Instant.toJson_spelled]
  have texts : StandardKind.responseHeader.toJson (headerAt (.mk 4 1333333333)) =
      StandardKind.responseHeader.toJson (headerAt (.mk 5 333333333)) := by
    simp only [StandardKind.toJson, ResponseHeader.toJson, headerAt, same]
  exact ⟨texts, StandardKind.responseHeader.read_bytes _ _,
    StandardKind.responseHeader.read_sorted_bytes _ _, by decide⟩

end OpcUa.ExtensionObject
