import OpcUa.Proofs.Json.Record
import OpcUa.Proofs.Text.Hex
import OpcUa.Structure.Standard

/-!
# Members read back

The parts that structures are made of are plain JSON when written and are read back from it: texts,
ids, choices, attributes and descriptions. A type is settled by the entries of its record and by the
types of its members.
-/

namespace OpcUa

open Json

/-! ### Texts, ids and choices -/

theorem LocalizedText.toJson_eq (t : LocalizedText) :
    t.toJson = .object (record [
      ("locale", t.locale.map .text),
      ("text", t.text.map .text)]) := by
  simp [toJson]

@[simp] theorem LocalizedText.plain_toJson (depth : Nat) (t : LocalizedText) :
    IsPlain (depth + 1) t.toJson := by
  rw [toJson_eq]
  exact plain_record (by simp)

@[simp] theorem LocalizedText.ofJson?_toJson (t : LocalizedText) :
    ofJson? t.toJson = some t := by
  rw [toJson_eq, ofJson?, bind_fields?_record]
  · simp
  · rfl
  · decide

@[simp] theorem Identifier.plain_toJson (depth : Nat) (i : Identifier) :
    IsPlain (depth + 2) i.toJson := by
  cases i with
  | numeric n => exact .object (by simp)
  | text t => exact .object (by simp)
  | guid g => exact .object (by simp)
  | bytes b => exact .object (by simpa using plain_list fun n _ => plain_uint8 depth n)

@[simp] theorem Identifier.ofJson?_toJson (i : Identifier) : ofJson? i.toJson = some i := by
  cases i with
  | numeric n => simp [ofJson?, toJson, choice?]
  | text t => simp [ofJson?, toJson, choice?]
  | guid g => simp [ofJson?, toJson, choice?, Guid.read?_text]
  | bytes b =>
    have read : asList? asUInt8? (.list (b.map fun n => .ofNat n.toNat)) = some b :=
      asList?_map fun n _ => asUInt8?_toNat n
    simp [ofJson?, toJson, choice?, read]

theorem NodeId.toJson_eq (id : NodeId) :
    id.toJson = .object (record [
      ("namespace_index", some (.ofNat id.namespaceIndex.toNat)),
      ("identifier", some id.identifier.toJson)]) :=
  rfl

@[simp] theorem NodeId.plain_toJson (depth : Nat) (id : NodeId) :
    IsPlain (depth + 3) id.toJson := by
  rw [toJson_eq]
  exact plain_record (by simp)

@[simp] theorem NodeId.ofJson?_toJson (id : NodeId) :
    ofJson? id.toJson = some id := by
  rw [toJson_eq, ofJson?, bind_fields?_record]
  · simp
  · rfl
  · decide

theorem ExpandedNodeId.toJson_eq (id : ExpandedNodeId) :
    id.toJson = .object (record [
      ("namespace_uri", id.namespaceUri.map .text),
      ("namespace_index", some (.ofNat id.namespaceIndex.toNat)),
      ("identifier", some id.identifier.toJson),
      ("server_index", some (.ofNat id.serverIndex.toNat))]) := by
  simp [toJson]

@[simp] theorem ExpandedNodeId.plain_toJson (depth : Nat) (id : ExpandedNodeId) :
    IsPlain (depth + 3) id.toJson := by
  rw [toJson_eq]
  exact plain_record (by simp)

@[simp] theorem ExpandedNodeId.ofJson?_toJson (id : ExpandedNodeId) :
    ofJson? id.toJson = some id := by
  rw [toJson_eq, ofJson?, bind_fields?_record]
  · simp
  · rfl
  · decide

@[simp] theorem ApplicationType.plain_toJson (depth : Nat) (a : ApplicationType) :
    IsPlain depth a.toJson :=
  .text a.name

@[simp] theorem ApplicationType.ofJson?_toJson (kept : Bool) (a : ApplicationType) :
    ofJson? kept a.toJson = some a := by
  cases a <;> rfl

@[simp] theorem MessageSecurityMode.plain_toJson (depth : Nat) (a : MessageSecurityMode) :
    IsPlain depth a.toJson :=
  .text a.name

@[simp] theorem MessageSecurityMode.ofJson?_toJson (kept : Bool) (a : MessageSecurityMode) :
    ofJson? kept a.toJson = some a := by
  cases a <;> rfl

@[simp] theorem UserTokenType.plain_toJson (depth : Nat) (a : UserTokenType) :
    IsPlain depth a.toJson :=
  .text a.name

@[simp] theorem UserTokenType.ofJson?_toJson (kept : Bool) (a : UserTokenType) :
    ofJson? kept a.toJson = some a := by
  cases a <;> rfl

@[simp] theorem BrowseDirection.plain_toJson (depth : Nat) (a : BrowseDirection) :
    IsPlain depth a.toJson :=
  .text a.name

@[simp] theorem BrowseDirection.ofJson?_toJson (a : BrowseDirection) :
    ofJson? a.toJson = some a := by
  cases a <;> rfl

/-! ### Node attributes -/

def NodeAttributes.entries (a : NodeAttributes) : List (String × Option Json) := [
  ("specified_attributes", some (.ofNat a.specifiedAttributes.toNat)),
  ("display_name", some a.displayName.toJson),
  ("description", some a.description.toJson),
  ("write_mask", some (.ofNat a.writeMask.toNat)),
  ("user_write_mask", some (.ofNat a.userWriteMask.toNat))]

theorem NodeAttributes.record_entries (a : NodeAttributes) : record a.entries = a.members :=
  rfl

theorem NodeAttributes.plain_entries (depth : Nat) (a : NodeAttributes) :
    ∀ entry ∈ a.entries, ∀ value ∈ entry.2, IsPlain (depth + 1) value := by
  simp [entries]

@[simp] theorem NodeAttributes.ofFields?_entries (a : NodeAttributes) :
    ofFields? (a.entries.map (·.2)) = some a := by
  simp [ofFields?, entries]

theorem NodeAttributes.plain_toJson (depth : Nat) (a : NodeAttributes) :
    IsPlain (depth + 2) a.toJson :=
  plain_record (a.plain_entries depth)

theorem NodeAttributes.ofJson?_toJson (a : NodeAttributes) : ofJson? a.toJson = some a := by
  rw [toJson, ← record_entries, ofJson?, bind_fields?_record]
  · exact a.ofFields?_entries
  · rfl
  · decide

/-- Attributes that extend those of all nodes are written after them and read before them. -/
theorem NodeAttributes.bind_keptFields? {α : Type} (a : NodeAttributes) {names : List String}
    {own : List (String × Option Json)} (make : List (Option Json) → Option α)
    (declared : names = own.map (·.1)) (distinct : (memberNames ++ names).Nodup)
    (plain : ∀ entry ∈ own, ∀ value ∈ entry.2, IsPlain (nestingLimit - 1) value) :
    (keptFields? names memberNames (.object (a.members ++ record own)) >>= make) =
      make (own.map (·.2) ++ a.entries.map (·.2)) := by
  -- What is asked for are the entries that were written, in the other order.
  rw [← record_entries, ← record_append, declared,
    @bind_keptFields?_record _ _ _ _ (own ++ a.entries), List.map_append]
  · rw [List.map_append]
    rfl
  · rw [List.map_append, ← declared]
    exact distinct
  · intro entry member
    exact List.mem_append.mpr (List.mem_append.mp member).symm
  · intro entry member
    rcases List.mem_append.mp member with inherited | special
    · exact a.plain_entries _ entry inherited
    · exact plain entry special

theorem NodeAttributes.plain_extended {depth : Nat} (a : NodeAttributes)
    {own : List (String × Option Json)}
    (plain : ∀ entry ∈ own, ∀ value ∈ entry.2, IsPlain (depth + 1) value) :
    IsPlain (depth + 2) (.object (a.members ++ record own)) := by
  rw [← record_entries, ← record_append]
  refine plain_record fun entry member => ?_
  rcases List.mem_append.mp member with inherited | special
  · exact a.plain_entries depth entry inherited
  · exact plain entry special

theorem ViewAttributes.toJson_eq (a : ViewAttributes) :
    a.toJson = .object (a.base.members ++ record [
      ("contains_no_loops", some (.bool a.containsNoLoops)),
      ("event_notifier", some (.ofNat a.eventNotifier.toNat))]) :=
  rfl

theorem ViewAttributes.plain_toJson (depth : Nat) (a : ViewAttributes) :
    IsPlain (depth + 2) a.toJson := by
  rw [toJson_eq]
  exact a.base.plain_extended (by simp)

theorem ViewAttributes.ofJson?_toJson (a : ViewAttributes) : ofJson? a.toJson = some a := by
  rw [toJson_eq, ofJson?, NodeAttributes.bind_keptFields?]
  · simp
  · rfl
  · decide
  · simp

theorem MethodAttributes.toJson_eq (a : MethodAttributes) :
    a.toJson = .object (a.base.members ++ record [
      ("executable", some (.bool a.executable)),
      ("user_executable", some (.bool a.userExecutable))]) :=
  rfl

theorem MethodAttributes.plain_toJson (depth : Nat) (a : MethodAttributes) :
    IsPlain (depth + 2) a.toJson := by
  rw [toJson_eq]
  exact a.base.plain_extended (by simp)

theorem MethodAttributes.ofJson?_toJson (a : MethodAttributes) : ofJson? a.toJson = some a := by
  rw [toJson_eq, ofJson?, NodeAttributes.bind_keptFields?]
  · simp
  · rfl
  · decide
  · simp

theorem ReferenceTypeAttributes.toJson_eq (a : ReferenceTypeAttributes) :
    a.toJson = .object (a.base.members ++ record [
      ("is_abstract", some (.bool a.isAbstract)),
      ("symmetric", some (.bool a.symmetric)),
      ("inverse_name", some a.inverseName.toJson)]) :=
  rfl

theorem ReferenceTypeAttributes.plain_toJson (depth : Nat) (a : ReferenceTypeAttributes) :
    IsPlain (depth + 2) a.toJson := by
  rw [toJson_eq]
  exact a.base.plain_extended (by simp)

theorem ReferenceTypeAttributes.ofJson?_toJson (a : ReferenceTypeAttributes) :
    ofJson? a.toJson = some a := by
  rw [toJson_eq, ofJson?, NodeAttributes.bind_keptFields?]
  · simp
  · rfl
  · decide
  · simp [nestingLimit]

/-! ### Descriptions -/

theorem UserTokenPolicy.toJson_eq (p : UserTokenPolicy) :
    p.toJson = .object (record [
      ("policy_id", p.policyId.map .text),
      ("token_type", some p.tokenType.toJson),
      ("issued_token_type", p.issuedTokenType.map .text),
      ("issuer_endpoint_url", p.issuerEndpointUrl.map .text),
      ("security_policy_uri", p.securityPolicyUri.map .text)]) := by
  simp [toJson]

@[simp] theorem UserTokenPolicy.plain_toJson (depth : Nat) (p : UserTokenPolicy) :
    IsPlain (depth + 1) p.toJson := by
  rw [toJson_eq]
  exact plain_record (by simp)

@[simp] theorem UserTokenPolicy.ofJson?_toJson (kept : Bool) (p : UserTokenPolicy) :
    ofJson? kept p.toJson = some p := by
  rw [toJson_eq, ofJson?, bind_fields?_record]
  · simp
  · rfl
  · decide

theorem ApplicationDescription.toJson_eq (d : ApplicationDescription) :
    d.toJson = .object (record [
      ("application_uri", some (.text d.applicationUri)),
      ("product_uri", some (.text d.productUri)),
      ("application_name", some d.applicationName.toJson),
      ("application_type", some d.applicationType.toJson),
      ("gateway_server_uri", d.gatewayServerUri.map .text),
      ("discovery_profile_uri", d.discoveryProfileUri.map .text),
      ("discovery_urls", some (.ofStrings d.discoveryUrls))]) := by
  simp [toJson]

@[simp] theorem ApplicationDescription.plain_toJson (depth : Nat) (d : ApplicationDescription) :
    IsPlain (depth + 2) d.toJson := by
  rw [toJson_eq]
  exact plain_record (by simp)

@[simp] theorem ApplicationDescription.ofJson?_toJson (kept : Bool) (d : ApplicationDescription) :
    ofJson? kept d.toJson = some d := by
  rw [toJson_eq, ofJson?, bind_fields?_record]
  · simp
  · rfl
  · decide

theorem EndpointDescription.plain_tokens (depth : Nat) (tokens : List (Option UserTokenPolicy)) :
    IsPlain (depth + 2) (.list (tokens.map (Json.ofOption UserTokenPolicy.toJson))) :=
  plain_list fun _ _ => plain_ofOption fun p _ => p.plain_toJson depth

theorem EndpointDescription.asList?_tokens (kept : Bool) (tokens : List (Option UserTokenPolicy)) :
    asList? (asOption? (UserTokenPolicy.ofJson? kept))
      (.list (tokens.map (Json.ofOption UserTokenPolicy.toJson))) = some tokens :=
  asList?_map fun _ _ =>
    asOption?_ofOption (fun p _ => p.ofJson?_toJson kept) fun _ => Json.noConfusion

theorem EndpointDescription.toJson_eq (e : EndpointDescription) :
    e.toJson = .object (record [
      ("endpoint_url", some (.text e.endpointUrl)),
      ("server", some e.server.toJson),
      ("server_certificate", e.serverCertificate.map .ofBytes),
      ("security_mode", some e.securityMode.toJson),
      ("security_policy_uri", e.securityPolicyUri.map .text),
      ("user_identity_tokens",
        some (.list (e.userIdentityTokens.map (Json.ofOption UserTokenPolicy.toJson)))),
      ("transport_profile_uri", some (.text e.transportProfileUri)),
      ("security_level", some (.ofNat e.securityLevel.toNat))]) := by
  simp [toJson]

@[simp] theorem EndpointDescription.plain_toJson (depth : Nat) (e : EndpointDescription) :
    IsPlain (depth + 3) e.toJson := by
  rw [toJson_eq]
  exact plain_record (by simp [plain_tokens])

@[simp] theorem EndpointDescription.ofJson?_toJson (kept : Bool) (e : EndpointDescription) :
    ofJson? kept e.toJson = some e := by
  rw [toJson_eq, ofJson?, bind_fields?_record]
  · simp [asList?_tokens]
  · rfl
  · decide

theorem EndpointConfiguration.toJson_eq (c : EndpointConfiguration) :
    c.toJson = .object (record [
      ("operation_timeout", some (.int c.operationTimeout.toInt)),
      ("use_binary_encoding", some (.bool c.useBinaryEncoding)),
      ("max_array_length", some (.ofNat c.maxArrayLength.toNat)),
      ("max_byte_string_length", some (.ofNat c.maxByteStringLength.toNat)),
      ("max_message_size", some (.ofNat c.maxMessageSize.toNat)),
      ("max_string_length", some (.ofNat c.maxStringLength.toNat)),
      ("max_buffer_size", some (.ofNat c.maxBufferSize.toNat)),
      ("channel_lifetime", some (.ofNat c.channelLifetime.toNat)),
      ("security_token_lifetime", some (.ofNat c.securityTokenLifetime.toNat))]) :=
  rfl

@[simp] theorem EndpointConfiguration.plain_toJson (depth : Nat) (c : EndpointConfiguration) :
    IsPlain (depth + 1) c.toJson := by
  rw [toJson_eq]
  exact plain_record (by simp)

@[simp] theorem EndpointConfiguration.ofJson?_toJson (c : EndpointConfiguration) :
    ofJson? c.toJson = some c := by
  rw [toJson_eq, ofJson?, bind_fields?_record]
  · simp
  · rfl
  · decide

theorem SignedSoftwareCertificate.toJson_eq (c : SignedSoftwareCertificate) :
    c.toJson = .object (record [
      ("certificate_data", some (.ofBytes c.certificateData)),
      ("signature", some (.ofBytes c.signature))]) :=
  rfl

@[simp] theorem SignedSoftwareCertificate.plain_toJson (depth : Nat)
    (c : SignedSoftwareCertificate) : IsPlain (depth + 1) c.toJson := by
  rw [toJson_eq]
  exact plain_record (by simp)

@[simp] theorem SignedSoftwareCertificate.ofJson?_toJson (c : SignedSoftwareCertificate) :
    ofJson? c.toJson = some c := by
  rw [toJson_eq, ofJson?, bind_fields?_record]
  · simp
  · rfl
  · decide

theorem BrowseDescription.toJson_eq (d : BrowseDescription) :
    d.toJson = .object (record [
      ("node_id", some d.nodeId.toJson),
      ("browse_direction", some d.browseDirection.toJson),
      ("reference_type_id", some d.referenceTypeId.toJson),
      ("include_subtypes", some (.bool d.includeSubtypes)),
      ("node_class_mask", some (.ofNat d.nodeClassMask.toNat)),
      ("result_mask", some (.ofNat d.resultMask.toNat))]) :=
  rfl

@[simp] theorem BrowseDescription.plain_toJson (depth : Nat) (d : BrowseDescription) :
    IsPlain (depth + 4) d.toJson := by
  rw [toJson_eq]
  exact plain_record (by simp)

@[simp] theorem BrowseDescription.ofJson?_toJson (d : BrowseDescription) :
    ofJson? d.toJson = some d := by
  rw [toJson_eq, ofJson?, bind_fields?_record]
  · simp
  · rfl
  · decide

theorem DiscoveryConfiguration.plain_toJson (depth : Nat) (c : DiscoveryConfiguration) :
    IsPlain (depth + 1) c.toJson :=
  .object fun _ none => by cases none

theorem DiscoveryConfiguration.ofJson?_toJson (c : DiscoveryConfiguration) :
    ofJson? c.toJson = some c :=
  rfl

theorem MdnsDiscoveryConfiguration.toJson_eq (c : MdnsDiscoveryConfiguration) :
    c.toJson = .object (record [
      ("mdns_server_name", c.serverName.map .text),
      ("server_capabilities", some (.ofStrings c.serverCapabilities))]) := by
  simp [toJson]

@[simp] theorem MdnsDiscoveryConfiguration.plain_toJson (depth : Nat)
    (c : MdnsDiscoveryConfiguration) : IsPlain (depth + 2) c.toJson := by
  rw [toJson_eq]
  exact plain_record (by simp)

@[simp] theorem MdnsDiscoveryConfiguration.ofJson?_toJson (c : MdnsDiscoveryConfiguration) :
    ofJson? c.toJson = some c := by
  rw [toJson_eq, ofJson?, bind_fields?_record]
  · simp
  · rfl
  · decide

end OpcUa
