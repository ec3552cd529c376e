import OpcUa.Proofs.Json.Order
import OpcUa.Proofs.Structure.RoundTrip

/-!
# Structures in order

Every standard structure type is read alike from a value and from the value in order, whether or
not it was written as that type. So a structure is read back from its members in order too.
-/

namespace OpcUa

open Json

/-! ### Texts, ids and choices -/

@[simp] theorem LocalizedText.ignoresOrder_ofJson? : IgnoresOrder ofJson? :=
  ignoresOrder_fields? 2 rfl fun found => by simp [List.ofFn_succ]

@[simp] theorem Identifier.ignoresOrder_ofJson? : IgnoresOrder ofJson? := by
  intro value
  rw [ofJson?, choice?_sorted, ofJson?]
  rcases choice? value with _ | ⟨sort, _ | carried⟩
  · rfl
  · rfl
  · have bytes := ignoresOrder_asList? ignoresOrder_asUInt8? carried
    simp [ignoresOrder_asUInt32? carried, ignoresOrder_asText? carried, bytes]

@[simp] theorem NodeId.ignoresOrder_ofJson? : IgnoresOrder ofJson? :=
  ignoresOrder_fields? 2 rfl fun found => by simp [List.ofFn_succ]

@[simp] theorem ApplicationType.ignoresOrder_ofJson? (kept : Bool) :
    IgnoresOrder (ofJson? kept) :=
  ignoresOrder_asChoice? kept names

@[simp] theorem MessageSecurityMode.ignoresOrder_ofJson? (kept : Bool) :
    IgnoresOrder (ofJson? kept) :=
  ignoresOrder_asChoice? kept names

@[simp] theorem UserTokenType.ignoresOrder_ofJson? (kept : Bool) :
    IgnoresOrder (ofJson? kept) :=
  ignoresOrder_asChoice? kept names

@[simp] theorem BrowseDirection.ignoresOrder_ofJson? : IgnoresOrder ofJson? :=
  ignoresOrder_asChoice? false names

/-! ### Node attributes -/

theorem NodeAttributes.ignoresOrder_ofJson? : IgnoresOrder ofJson? :=
  ignoresOrder_fields? 5 rfl fun found => by simp [ofFields?, List.ofFn_succ]

theorem ViewAttributes.ignoresOrder_ofJson? : IgnoresOrder ofJson? :=
  ignoresOrder_keptFields? 7 rfl fun found => by simp [NodeAttributes.ofFields?, List.ofFn_succ]

theorem MethodAttributes.ignoresOrder_ofJson? : IgnoresOrder ofJson? :=
  ignoresOrder_keptFields? 7 rfl fun found => by simp [NodeAttributes.ofFields?, List.ofFn_succ]

theorem ReferenceTypeAttributes.ignoresOrder_ofJson? : IgnoresOrder ofJson? :=
  ignoresOrder_keptFields? 8 rfl fun found => by simp [NodeAttributes.ofFields?, List.ofFn_succ]

/-! ### Descriptions -/

@[simp] theorem UserTokenPolicy.ignoresOrder_ofJson? (kept : Bool) :
    IgnoresOrder (ofJson? kept) :=
  ignoresOrder_fields? 5 rfl fun found => by simp [List.ofFn_succ]

@[simp] theorem ApplicationDescription.ignoresOrder_ofJson? (kept : Bool) :
    IgnoresOrder (ofJson? kept) :=
  ignoresOrder_fields? 7 rfl fun found => by simp [List.ofFn_succ]

@[simp] theorem EndpointDescription.ignoresOrder_ofJson? (kept : Bool) :
    IgnoresOrder (ofJson? kept) := by
  have tokens :=
    ignoresOrder_asList? (ignoresOrder_asOption? (UserTokenPolicy.ignoresOrder_ofJson? kept))
  exact ignoresOrder_fields? 8 rfl fun found => by simp [List.ofFn_succ, tokens]

theorem EndpointConfiguration.ignoresOrder_ofJson? : IgnoresOrder ofJson? :=
  ignoresOrder_fields? 9 rfl fun found => by simp [List.ofFn_succ]

theorem SignedSoftwareCertificate.ignoresOrder_ofJson? : IgnoresOrder ofJson? :=
  ignoresOrder_fields? 2 rfl fun found => by simp [List.ofFn_succ]

theorem BrowseDescription.ignoresOrder_ofJson? : IgnoresOrder ofJson? :=
  ignoresOrder_fields? 6 rfl fun found => by simp [List.ofFn_succ]

theorem DiscoveryConfiguration.ignoresOrder_ofJson? : IgnoresOrder ofJson? := by
  intro value
  rw [ofJson?, fields?_sorted, Option.map_map, ofJson?]

theorem MdnsDiscoveryConfiguration.ignoresOrder_ofJson? : IgnoresOrder ofJson? :=
  ignoresOrder_fields? 2 rfl fun found => by simp [List.ofFn_succ]

/-! ### Headers and services -/

@[simp] theorem Instant.ignoresOrder_ofJson? : IgnoresOrder ofJson? :=
  ignoresOrder_of_leaf (fun _ => rfl) fun _ => rfl

@[simp] theorem StatusCode.ignoresOrder_ofJson? : IgnoresOrder ofJson? := by
  intro value
  rw [ofJson?, ignoresOrder_asUInt32?, ofJson?]

@[simp] theorem RequestHeader.ignoresOrder_ofJson? (now : Instant) : IgnoresOrder (ofJson? now) :=
  ignoresOrder_fields? 6 rfl fun found => by simp [List.ofFn_succ]

@[simp] theorem ResponseHeader.ignoresOrder_ofJson? (now : Instant) :
    IgnoresOrder (ofJson? now) :=
  ignoresOrder_fields? 4 rfl fun found => by simp [List.ofFn_succ]

theorem GetEndpointsRequest.ignoresOrder_ofJson? (now : Instant) : IgnoresOrder (ofJson? now) :=
  ignoresOrder_fields? 4 rfl fun found => by simp [List.ofFn_succ]

theorem GetEndpointsResponse.ignoresOrder_ofJson? (kept : Bool) (now : Instant) :
    IgnoresOrder (ofJson? kept now) :=
  ignoresOrder_fields? 2 rfl fun found => by simp [List.ofFn_succ]

/-! ### Standard structures -/

theorem StandardKind.ignoresOrder_ofJson? (now : Instant) (k : StandardKind) :
    IgnoresOrder (k.ofJson? now) := by
  cases k with
  | nodeAttributes => exact NodeAttributes.ignoresOrder_ofJson?
  | viewAttributes => exact ViewAttributes.ignoresOrder_ofJson?
  | methodAttributes => exact MethodAttributes.ignoresOrder_ofJson?
  | referenceTypeAttributes => exact ReferenceTypeAttributes.ignoresOrder_ofJson?
  | userTokenPolicy => exact UserTokenPolicy.ignoresOrder_ofJson? false
  | applicationDescription => exact ApplicationDescription.ignoresOrder_ofJson? false
  | endpointDescription => exact EndpointDescription.ignoresOrder_ofJson? false
  | endpointConfiguration => exact EndpointConfiguration.ignoresOrder_ofJson?
  | signedSoftwareCertificate => exact SignedSoftwareCertificate.ignoresOrder_ofJson?
  | requestHeader => exact RequestHeader.ignoresOrder_ofJson? now
  | responseHeader => exact ResponseHeader.ignoresOrder_ofJson? now
  | getEndpointsRequest => exact GetEndpointsRequest.ignoresOrder_ofJson? now
  | getEndpointsResponse => exact GetEndpointsResponse.ignoresOrder_ofJson? false now
  | browseDescription => exact BrowseDescription.ignoresOrder_ofJson?
  | discoveryConfiguration => exact DiscoveryConfiguration.ignoresOrder_ofJson?
  | mdnsDiscoveryConfiguration => exact MdnsDiscoveryConfiguration.ignoresOrder_ofJson?

theorem StandardKind.read_sorted_bytes (now : Instant) (k : StandardKind) (value : k.Value) :
    (parse? (k.toJson value).sorted.bytes).bind (k.ofJson? now) = some (k.spelled value) := by
  rw [parse?_bytes (k.plain_toJson value).sorted, Option.bind_some, k.ignoresOrder_ofJson? now]
  exact k.ofJson?_toJson now value

end OpcUa
