import OpcUa.Proofs.Structure.Members
import OpcUa.Proofs.Structure.Standard
import OpcUa.Proofs.Time.Rfc3339

/-!
# Structures read back

Every value of every standard structure type is plain JSON when written and is read back from it,
with its time stamps as they are spelled. So its bytes are decoded as the value, if its time stamps
are regular.
-/

namespace OpcUa

open Json

/-! ### Headers and services -/

@[simp] theorem Instant.plain_toJson (depth : Nat) (t : Instant) : IsPlain depth t.toJson :=
  .text t.text

@[simp] theorem Instant.ofJson?_toJson (t : Instant) : ofJson? t.toJson = some t.spelled :=
  t.ofText?_text

@[simp] theorem Instant.toJson_spelled (t : Instant) : t.spelled.toJson = t.toJson :=
  congrArg Json.text t.text_spelled

@[simp] theorem StatusCode.plain_toJson (depth : Nat) (s : StatusCode) : IsPlain depth s.toJson :=
  plain_uint32 depth s.code

@[simp] theorem StatusCode.ofJson?_toJson (s : StatusCode) : ofJson? s.toJson = some s := by
  rw [ofJson?, toJson, asUInt32?_toNat, Option.map_some]

theorem RequestHeader.toJson_eq (h : RequestHeader) :
    h.toJson = .object (record [
      ("authentication_token", some h.authenticationToken.toJson),
      ("timestamp", some h.timestamp.toJson),
      ("request_handle", some (.ofNat h.requestHandle.toNat)),
      ("return_diagnostics", some (.ofNat h.returnDiagnostics.toNat)),
      ("audit_entry_id", h.auditEntryId.map .text),
      ("timeout_hint", some (.ofNat h.timeoutHint.toNat))]) := by
  simp [toJson]

@[simp] theorem RequestHeader.plain_toJson (depth : Nat) (h : RequestHeader) :
    IsPlain (depth + 4) h.toJson := by
  rw [toJson_eq]
  exact plain_record (by simp)

/-- The header that is read back, equal in everything but the time stamp. -/
def RequestHeader.spelled (h : RequestHeader) : RequestHeader :=
  { h with timestamp := h.timestamp.spelled }

@[simp] theorem RequestHeader.spelled_eq_self_iff {h : RequestHeader} :
    h.spelled = h ↔ h.timestamp.IsRegular := by
  rw [← Instant.spelled_eq_self_iff]
  cases h
  simp [spelled]

@[simp] theorem RequestHeader.ofJson?_toJson (now : Instant) (h : RequestHeader) :
    ofJson? now h.toJson = some h.spelled := by
  rw [toJson_eq, ofJson?, bind_fields?_record]
  · simp [spelled]
  · rfl
  · decide

theorem ResponseHeader.toJson_eq (h : ResponseHeader) :
    h.toJson = .object (record [
      ("timestamp", some h.timestamp.toJson),
      ("request_handle", some (.ofNat h.requestHandle.toNat)),
      ("service_result", some h.serviceResult.toJson),
      ("string_table", some (.ofStrings h.stringTable))]) :=
  rfl

@[simp] theorem ResponseHeader.plain_toJson (depth : Nat) (h : ResponseHeader) :
    IsPlain (depth + 2) h.toJson := by
  rw [toJson_eq]
  exact plain_record (by simp)

/-- The header that is read back, equal in everything but the time stamp. -/
def ResponseHeader.spelled (h : ResponseHeader) : ResponseHeader :=
  { h with timestamp := h.timestamp.spelled }

@[simp] theorem ResponseHeader.spelled_eq_self_iff {h : ResponseHeader} :
    h.spelled = h ↔ h.timestamp.IsRegular := by
  rw [← Instant.spelled_eq_self_iff]
  cases h
  simp [spelled]

@[simp] theorem ResponseHeader.ofJson?_toJson (now : Instant) (h : ResponseHeader) :
    ofJson? now h.toJson = some h.spelled := by
  rw [toJson_eq, ofJson?, bind_fields?_record]
  · simp [spelled]
  · rfl
  · decide

def GetEndpointsRequest.entries (r : GetEndpointsRequest) : List (String × Option Json) := [
  ("request_header", some r.requestHeader.toJson),
  ("endpoint_url", some (.text r.endpointUrl)),
  ("locale_ids", some (.ofStrings r.localeIds)),
  ("profile_uris", some (.ofStrings r.profileUris))]

theorem GetEndpointsRequest.toJson_eq (r : GetEndpointsRequest) :
    r.toJson = .object (record r.entries) :=
  rfl

@[simp] theorem GetEndpointsRequest.plain_toJson (depth : Nat) (r : GetEndpointsRequest) :
    IsPlain (depth + 5) r.toJson := by
  rw [toJson_eq]
  exact plain_record (by simp [entries])

def GetEndpointsRequest.spelled (r : GetEndpointsRequest) : GetEndpointsRequest :=
  { r with requestHeader := r.requestHeader.spelled }

@[simp] theorem GetEndpointsRequest.spelled_eq_self_iff {r : GetEndpointsRequest} :
    r.spelled = r ↔ r.requestHeader.timestamp.IsRegular := by
  rw [← RequestHeader.spelled_eq_self_iff]
  cases r
  simp [spelled]

@[simp] theorem GetEndpointsRequest.ofJson?_toJson (now : Instant) (r : GetEndpointsRequest) :
    ofJson? now r.toJson = some r.spelled := by
  rw [toJson_eq, ofJson?, bind_fields?_record]
  · simp [entries, spelled]
  · rfl
  · decide

theorem GetEndpointsResponse.plain_endpoints (depth : Nat) (endpoints : List EndpointDescription) :
    IsPlain (depth + 4) (.list (endpoints.map EndpointDescription.toJson)) :=
  plain_list fun e _ => e.plain_toJson depth

theorem GetEndpointsResponse.asList?_endpoints (kept : Bool)
    (endpoints : List EndpointDescription) :
    asList? (EndpointDescription.ofJson? kept) (.list (endpoints.map EndpointDescription.toJson)) =
      some endpoints :=
  asList?_map fun e _ => e.ofJson?_toJson kept

def GetEndpointsResponse.entries (r : GetEndpointsResponse) : List (String × Option Json) := [
  ("response_header", some r.responseHeader.toJson),
  ("endpoints", some (.list (r.endpoints.map EndpointDescription.toJson)))]

theorem GetEndpointsResponse.toJson_eq (r : GetEndpointsResponse) :
    r.toJson = .object (record r.entries) :=
  rfl

@[simp] theorem GetEndpointsResponse.plain_toJson (depth : Nat) (r : GetEndpointsResponse) :
    IsPlain (depth + 5) r.toJson := by
  rw [toJson_eq]
  exact plain_record (by simp [entries, plain_endpoints])

def GetEndpointsResponse.spelled (r : GetEndpointsResponse) : GetEndpointsResponse :=
  { r with responseHeader := r.responseHeader.spelled }

@[simp] theorem GetEndpointsResponse.spelled_eq_self_iff {r : GetEndpointsResponse} :
    r.spelled = r ↔ r.responseHeader.timestamp.IsRegular := by
  rw [← ResponseHeader.spelled_eq_self_iff]
  cases r
  simp [spelled]

@[simp] theorem GetEndpointsResponse.ofJson?_toJson (kept : Bool) (now : Instant)
    (r : GetEndpointsResponse) : ofJson? kept now r.toJson = some r.spelled := by
  rw [toJson_eq, ofJson?, bind_fields?_record]
  · simp [entries, asList?_endpoints, spelled]
  · rfl
  · decide

/-! ### Standard structures -/

namespace StandardKind

/-- The time stamps that a structure carries. -/
def timestamps : (k : StandardKind) → k.Value → List Instant
  | requestHeader, h => [h.timestamp]
  | responseHeader, h => [h.timestamp]
  | getEndpointsRequest, r => [r.requestHeader.timestamp]
  | getEndpointsResponse, r => [r.responseHeader.timestamp]
  | _, _ => []

theorem plain_toJson (k : StandardKind) (value : k.Value) : IsPlain 5 (k.toJson value) := by
  cases k with
  | nodeAttributes => exact NodeAttributes.plain_toJson 3 value
  | viewAttributes => exact ViewAttributes.plain_toJson 3 value
  | methodAttributes => exact MethodAttributes.plain_toJson 3 value
  | referenceTypeAttributes => exact ReferenceTypeAttributes.plain_toJson 3 value
  | userTokenPolicy => exact UserTokenPolicy.plain_toJson 4 value
  | applicationDescription => exact ApplicationDescription.plain_toJson 3 value
  | endpointDescription => exact EndpointDescription.plain_toJson 2 value
  | endpointConfiguration => exact EndpointConfiguration.plain_toJson 4 value
  | signedSoftwareCertificate => exact SignedSoftwareCertificate.plain_toJson 4 value
  | requestHeader => exact RequestHeader.plain_toJson 1 value
  | responseHeader => exact ResponseHeader.plain_toJson 3 value
  | getEndpointsRequest => exact GetEndpointsRequest.plain_toJson 0 value
  | getEndpointsResponse => exact GetEndpointsResponse.plain_toJson 0 value
  | browseDescription => exact BrowseDescription.plain_toJson 1 value
  | discoveryConfiguration => exact DiscoveryConfiguration.plain_toJson 4 value
  | mdnsDiscoveryConfiguration => exact MdnsDiscoveryConfiguration.plain_toJson 3 value

/-- The structure that is read back, equal in everything but its time stamps. -/
def spelled : (k : StandardKind) → k.Value → k.Value
  | requestHeader, h => h.spelled
  | responseHeader, h => h.spelled
  | getEndpointsRequest, r => r.spelled
  | getEndpointsResponse, r => r.spelled
  | _, value => value

/-- The structures that are read back as they were are those with regular time stamps. -/
theorem spelled_eq_self_iff (k : StandardKind) (value : k.Value) :
    k.spelled value = value ↔ ∀ t ∈ k.timestamps value, t.IsRegular := by
  cases k with
  | requestHeader => exact RequestHeader.spelled_eq_self_iff.trans List.forall_mem_singleton.symm
  | responseHeader => exact ResponseHeader.spelled_eq_self_iff.trans List.forall_mem_singleton.symm
  | getEndpointsRequest =>
    exact GetEndpointsRequest.spelled_eq_self_iff.trans List.forall_mem_singleton.symm
  | getEndpointsResponse =>
    exact GetEndpointsResponse.spelled_eq_self_iff.trans List.forall_mem_singleton.symm
  | _ => exact ⟨fun _ _ none => (nomatch none), fun _ => rfl⟩

theorem ofJson?_toJson (now : Instant) (k : StandardKind) (value : k.Value) :
    k.ofJson? now (k.toJson value) = some (k.spelled value) := by
  cases k with
  | nodeAttributes => exact NodeAttributes.ofJson?_toJson value
  | viewAttributes => exact ViewAttributes.ofJson?_toJson value
  | methodAttributes => exact MethodAttributes.ofJson?_toJson value
  | referenceTypeAttributes => exact ReferenceTypeAttributes.ofJson?_toJson value
  | userTokenPolicy => exact UserTokenPolicy.ofJson?_toJson false value
  | applicationDescription => exact ApplicationDescription.ofJson?_toJson false value
  | endpointDescription => exact EndpointDescription.ofJson?_toJson false value
  | endpointConfiguration => exact EndpointConfiguration.ofJson?_toJson value
  | signedSoftwareCertificate => exact SignedSoftwareCertificate.ofJson?_toJson value
  | requestHeader => exact RequestHeader.ofJson?_toJson now value
  | responseHeader => exact ResponseHeader.ofJson?_toJson now value
  | getEndpointsRequest => exact GetEndpointsRequest.ofJson?_toJson now value
  | getEndpointsResponse => exact GetEndpointsResponse.ofJson?_toJson false now value
  | browseDescription => exact BrowseDescription.ofJson?_toJson value
  | discoveryConfiguration => exact DiscoveryConfiguration.ofJson?_toJson value
  | mdnsDiscoveryConfiguration => exact MdnsDiscoveryConfiguration.ofJson?_toJson value

theorem read_bytes (now : Instant) (k : StandardKind) (value : k.Value) :
    (parse? (k.toJson value).bytes).bind (k.ofJson? now) = some (k.spelled value) := by
  rw [parse?_bytes (k.plain_toJson value), Option.bind_some]
  exact k.ofJson?_toJson now value

end StandardKind

theorem decodeBody_of_read {now : Instant} {k : StandardKind} {value : k.Value}
    {body : List UInt8} (read : (parse? body).bind (k.ofJson? now) = some value) :
    decodeBody now k body = .ok ⟨k, value⟩ := by
  have same : (parse? body).bind (StructureFamily.ofJson? now k) = some value := read
  rw [decodeBody, same]

/-- The bytes of a structure are decoded as the structure. -/
theorem decodeBody_bytes (now : Instant) (k : StandardKind) (value : k.Value) :
    decodeBody now k (k.toJson value).bytes = .ok ⟨k, k.spelled value⟩ :=
  decodeBody_of_read (k.read_bytes now value)

end OpcUa
