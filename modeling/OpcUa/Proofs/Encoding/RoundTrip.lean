import OpcUa.Proofs.Encoding.TypeIds
import OpcUa.Proofs.Structure.RoundTrip

/-!
# Encoded values decoded

Encoding and decoding have limits of their own. Under any limits and any namespace table, a value
that was encoded is decoded again in the same context just when its body is no longer than a byte
string may be; a longer one is an error for whoever decodes it alone, and an absent item of an
array.
-/

namespace OpcUa

open StructureFamily

theorem TypeRegistry.lookup?_encodingId (k : StandardKind) :
    (standard id).lookup? ((descriptor k).encodingId .binary) = some k := by
  cases k <;> decide

namespace EncoderContext

variable {κ : Type} [StructureFamily κ] {c : EncoderContext κ} {sender : Option NamespaceTable}

/-- The type id of the envelope means something to the reader, if it has a body to be decoded. -/
def Resolves (c : EncoderContext κ) (sender : Option NamespaceTable) (o : ExtensionObject κ) :
    Prop :=
  ∀ bytes, o.body = .encoded bytes → ∃ id, (sender.getD c.namespaces).qualify o.typeId = .ok id

/-- The array is no longer than arrays may be, and all of its envelopes resolve. -/
def Admits (c : EncoderContext κ) (sender : Option NamespaceTable)
    (envelopes : List (Option (ExtensionObject κ))) : Prop :=
  envelopes.length ≤ c.limits.arrayLength.toNat ∧ ∀ o, some o ∈ envelopes → c.Resolves sender o

theorem not_unplaced {o : ExtensionObject κ} (resolves : c.Resolves sender o) :
    ¬ c.Unplaced sender o := by
  rintro ⟨⟨bytes, body, -⟩, noUri, beyond⟩
  obtain ⟨id, qualified⟩ := resolves bytes body
  rw [NamespaceTable.qualify_eq_error_iff.mpr ⟨noUri, beyond, rfl⟩] at qualified
  cases qualified

/-- An admitted array is decoded, each item in the place of its envelope. -/
theorem decodeArray_of_admits (now : Instant) {envelopes : List (Option (ExtensionObject κ))}
    (admitted : c.Admits sender envelopes) :
    ∃ a : DecodedArray κ, c.decodeArray now sender envelopes = .ok a ∧
      ∀ (i : Nat) envelope item, envelopes[i]? = some envelope →
        c.decodeItem now sender envelope = .ok item → a.items[i]? = some item := by
  obtain ⟨fits, resolve⟩ := admitted
  obtain ⟨a, decoded⟩ := exists_decodeItems_iff.mpr fun o member => not_unplaced (resolve o member)
  refine ⟨a, (if_neg (Nat.not_lt.mpr fits)).trans decoded, fun i envelope item here found => ?_⟩
  exact (getElem?_items_iff decoded here).mpr found

end EncoderContext

namespace ExtensionObject

variable {c : EncoderContext StandardKind} {now : Instant} {sender : Option NamespaceTable}

/-- The ids of encodings name their namespace by URI, so no table is asked. -/
theorem decode_encoded (standard : c.registry = .standard id) (k : StandardKind)
    {body : List UInt8} (fits : body.length ≤ c.limits.byteStringLength.toNat) :
    decode c now sender ⟨c.encodingExpandedId (descriptor k) .binary, .encoded body⟩ =
      (decodeBody now k body).map some := by
  have found : c.registry.lookup? ((descriptor k).encodingId .binary) = some k := by
    rw [standard, TypeRegistry.lookup?_encodingId]
  simp only [decode, if_neg (Nat.not_lt.mpr fits), EncoderContext.qualify_encodingExpandedId,
    found]

theorem decodeAs_of_decode {k : StandardKind} {value : k.Value} {o : ExtensionObject StandardKind}
    (decoded : o.decode c now none = .ok (some ⟨k, value⟩)) : o.decodeAs c now k = .ok value := by
  simp [decodeAs, decoded, Structure.as?]

/-- A body over the limit is not looked into. -/
theorem decode_over (now : Instant) (sender : Option NamespaceTable) (id : ExpandedNodeId)
    {body : List UInt8} (exceeds : c.limits.byteStringLength.toNat < body.length) :
    decode c now sender ⟨id, .encoded body⟩ =
      .error (.bodyOverLimit body.length c.limits.byteStringLength.toNat) :=
  if_pos exceeds

theorem encode_of_fits {k : StandardKind} {value : k.Value}
    (fits : (k.toJson value).bytes.length ≤ c.limits.messageSize.toNat) :
    encode c ⟨k, value⟩ = .ok ⟨c.encodingExpandedId (descriptor k) .binary,
      .encoded (k.toJson value).bytes⟩ :=
  if_neg (Nat.not_lt.mpr fits)

theorem encode_eq {k : StandardKind} {value : k.Value} {o : ExtensionObject StandardKind}
    (encoded : encode c ⟨k, value⟩ = .ok o) :
    o = ⟨c.encodingExpandedId (descriptor k) .binary, .encoded (k.toJson value).bytes⟩ := by
  rw [encode] at encoded
  split at encoded
  · cases encoded
  · cases encoded
    rfl

/-- What was encoded is decoded as it is spelled, alone and in every array that is admitted, if its
body is no longer than a byte string may be. That is the same value just if its time stamps are
regular. If the body is longer, it is refused for its length, and its place in an array stays
empty. -/
theorem decoded_of_encoded (standard : c.registry = .standard id) (now : Instant)
    (sender : Option NamespaceTable) {k : StandardKind} {value : k.Value}
    {o : ExtensionObject StandardKind} (encoded : encode c ⟨k, value⟩ = .ok o) :
    ((k.toJson value).bytes.length ≤ c.limits.byteStringLength.toNat →
      o.decodeAs c now k = .ok (k.spelled value) ∧
      ∀ envelopes (i : Nat), c.Admits sender envelopes → envelopes[i]? = some (some o) →
        ∃ a, c.decodeArray now sender envelopes = .ok a ∧
          a.items[i]? = some (some ⟨k, k.spelled value⟩)) ∧
    (k.spelled value = value ↔ ∀ t ∈ k.timestamps value, t.IsRegular) ∧
    (c.limits.byteStringLength.toNat < (k.toJson value).bytes.length →
      o.decodeAs c now k = .error (.bodyOverLimit (k.toJson value).bytes.length
        c.limits.byteStringLength.toNat) ∧
      ∀ envelopes (i : Nat), c.Admits sender envelopes → envelopes[i]? = some (some o) →
        ∃ a, c.decodeArray now sender envelopes = .ok a ∧ a.items[i]? = some none) := by
  obtain rfl := encode_eq encoded
  refine ⟨fun fits => ?_, k.spelled_eq_self_iff value, fun exceeds => ?_⟩
  · -- Alone it is decoded without the table of a sender, and in an array with any.
    have decoded : ∀ sender, decode c now sender
        ⟨c.encodingExpandedId (descriptor k) .binary, .encoded (k.toJson value).bytes⟩ =
          .ok (some ⟨k, k.spelled value⟩) := by
      intro sender
      rw [decode_encoded standard k fits]
      exact congrArg (Except.map some) (decodeBody_bytes now k value)
    refine ⟨decodeAs_of_decode (decoded none), fun envelopes i admitted here => ?_⟩
    obtain ⟨a, done, places⟩ := EncoderContext.decodeArray_of_admits now admitted
    exact ⟨a, done, places i _ _ here (by rw [EncoderContext.decodeItem, decoded])⟩
  · refine ⟨by rw [decodeAs, decode_over now none _ exceeds], fun envelopes i admitted here => ?_⟩
    obtain ⟨a, done, places⟩ := EncoderContext.decodeArray_of_admits now admitted
    refine ⟨a, done, places i _ _ here ?_⟩
    rw [EncoderContext.decodeItem, decode_over now sender _ exceeds]
    exact if_pos rfl

/-- The header of a good answer at the start of 1970. -/
def epochHeader : ResponseHeader where
  timestamp := .epoch

theorem spelled_epochHeader : StandardKind.responseHeader.spelled epochHeader = epochHeader :=
  rfl

theorem length_epochHeader :
    (StandardKind.responseHeader.toJson epochHeader).bytes.length = 92 := by
  rw [Json.bytes_eq_utf8]
  decide +kernel

theorem decoded_of_encoded_epochHeader :
    ∃ o, encode (.standard id) ⟨.responseHeader, epochHeader⟩ = .ok o ∧
      o.decodeAs (.standard id) .epoch .responseHeader = .ok epochHeader ∧
      ∃ a, (EncoderContext.standard id).decodeArray .epoch none [none, some o] = .ok a ∧
        a.items[1]? = some (some ⟨.responseHeader, epochHeader⟩) := by
  have encoded := @encode_of_fits (.standard id) .responseHeader epochHeader (by
    rw [length_epochHeader]
    decide)
  obtain ⟨alone, inside⟩ := (decoded_of_encoded rfl .epoch none encoded).1 (by
    rw [length_epochHeader]
    decide)
  rw [spelled_epochHeader] at alone inside
  refine ⟨_, encoded, alone, inside [none, some _] 1 ⟨by decide, fun o member bytes _ => ?_⟩ rfl⟩
  rw [List.mem_cons, List.mem_singleton] at member
  rcases member with absent | same
  · cases absent
  · cases same
    exact ⟨_, EncoderContext.qualify_encodingExpandedId _ _ _⟩

/-- Under the limits of `tightContext` even the two bytes of an empty record are encoded and not
decoded again, neither alone nor in an array. -/
theorem not_decoded_of_encoded :
    ∃ o, encode tightContext ⟨.discoveryConfiguration, ({} : DiscoveryConfiguration)⟩ = .ok o ∧
      o.decodeAs tightContext .epoch .discoveryConfiguration = .error (.bodyOverLimit 2 1) ∧
      ∃ a, tightContext.decodeArray .epoch none [some o] = .ok a ∧ a.items = [none] := by
  have bytes : (StandardKind.discoveryConfiguration.toJson ({} : DiscoveryConfiguration)).bytes =
      [0x7B, 0x7D] := by
    rw [Json.bytes_eq_utf8]
    decide
  have exceeds : tightContext.limits.byteStringLength.toNat < [0x7B, 0x7D].length := by decide
  refine ⟨⟨tightContext.encodingExpandedId (descriptor StandardKind.discoveryConfiguration) .binary,
    .encoded [0x7B, 0x7D]⟩, ?_, ?_, ⟨none, [none]⟩, ?_, rfl⟩
  · rw [← bytes]
    exact encode_of_fits (by
      rw [bytes]
      decide)
  · rw [decodeAs, decode_over _ _ _ exceeds]
    rfl
  · rfl

end ExtensionObject

end OpcUa
