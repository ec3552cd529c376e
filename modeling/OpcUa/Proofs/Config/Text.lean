import Mathlib.Data.List.Sublists
import OpcUa.Config.Text
import OpcUa.Proofs.Structure.Members
import OpcUa.Proofs.Toml.Typed

/-!
# Configurations read back

A configuration is read back from its text: whatever its members are, each of them stands under its
name again or is absent where it was.
-/

namespace OpcUa

open Json Toml

/-! ### Names -/

theorem EngineFlag.ofJson?_toJson (f : EngineFlag) : ofJson? f.toJson = some f := by
  cases f <;> rfl

/-- Flags that stand once each and in their order are those of a set. -/
theorem EngineFlag.set_of_sublist {flags : List EngineFlag}
    (ordered : flags.Sublist [.multiThread, .reuseAddress]) : set flags = flags := by
  have all : ∀ few ∈ List.sublists [multiThread, reuseAddress], set few = few := by decide
  exact all flags (List.mem_sublists.mpr ordered)

theorem HostnameVerification.ofJson?_toJson (v : HostnameVerification) :
    ofJson? v.toJson = some v := by
  cases v <;> rfl

theorem HttpsSecurityPolicy.ofJson?_toJson (p : HttpsSecurityPolicy) :
    ofJson? p.toJson = some p := by
  cases p <;> rfl

theorem SecurityPolicy.ofJson?_toJson (p : SecurityPolicy) : ofJson? p.toJson = some p := by
  cases p <;> decide +kernel

/-! ### Tables -/

namespace IdentityConfig

theorem isTable (depth : Nat) (c : IdentityConfig) :
    IsTable (depth + 1) c.toJson.membersOrNone := by
  refine isTableOf_names ["certificate", "private_key"] rfl (by decide) ?_
  simp only [toJson, membersOrNone, List.forall_mem_cons]
  exact ⟨isMember_text _, isMember_text _, nofun⟩

theorem ofJson?_arranged (c : IdentityConfig) :
    ofJson? (.object (arranged c.toJson.membersOrNone)) = some c := by
  rw [ofJson?, bind_fields?_arranged]
  · simp [toJson, membersOrNone, (gives_text _).required]
  · rfl
  · decide

end IdentityConfig

namespace SecurityOffer

theorem isTable (depth : Nat) (o : SecurityOffer) :
    IsTable (depth + 1) o.toJson.membersOrNone := by
  refine isTableOf_names ["mode", "policy"] rfl (by decide) ?_
  simp only [toJson, membersOrNone, List.forall_mem_cons]
  exact ⟨isMember_text _, isMember_text _, nofun⟩

theorem ofJson?_arranged (o : SecurityOffer) :
    ofJson? (.object (arranged o.toJson.membersOrNone)) = some o := by
  have mode : Gives (MessageSecurityMode.ofJson? false) o.mode.toJson o.mode :=
    gives_of_isValue (.scalar (.text _)) (o.mode.ofJson?_toJson false)
  have policy : Gives SecurityPolicy.ofJson? o.policy.toJson o.policy :=
    gives_of_isValue (.scalar (.text _)) o.policy.ofJson?_toJson
  rw [ofJson?, bind_fields?_arranged]
  · simp [toJson, membersOrNone, mode.required, policy.required]
  · rfl
  · decide

end SecurityOffer

namespace EndpointConfiguration

theorem isTable (depth : Nat) (c : EndpointConfiguration) :
    IsTable (depth + 1) c.toJson.membersOrNone := by
  refine isTableOf_names [
    "operation_timeout", "use_binary_encoding", "max_array_length", "max_byte_string_length",
    "max_message_size", "max_string_length", "max_buffer_size", "channel_lifetime",
    "security_token_lifetime"] rfl (by decide) ?_
  have size {isTable : List (String × Json) → Prop} (n : UInt32) :
      IsMember isTable (.ofNat n.toNat) := .value (.scalar (isScalar_uint32 n))
  simp only [toJson, membersOrNone, List.forall_mem_cons]
  exact ⟨.value (.scalar (isScalar_int32 _)), .value (.scalar (.bool _)), size _, size _, size _,
    size _, size _, size _, size _, nofun⟩

theorem ofJson?_arranged (c : EndpointConfiguration) :
    ofJson? (.object (arranged c.toJson.membersOrNone)) = some c := by
  have timeout : Gives asInt32? (.int c.operationTimeout.toInt) c.operationTimeout :=
    gives_of_isValue (.scalar (isScalar_int32 _)) (asInt32?_toInt _)
  have binary : Gives asBool? (.bool c.useBinaryEncoding) c.useBinaryEncoding :=
    gives_of_isValue (.scalar (.bool _)) rfl
  have size (n : UInt32) : Gives asUInt32? (.ofNat n.toNat) n :=
    gives_of_isValue (.scalar (isScalar_uint32 n)) (asUInt32?_toNat n)
  rw [ofJson?, bind_fields?_arranged]
  · simp [toJson, membersOrNone, timeout.orElse, binary.orElse, (size _).orElse]
  · rfl
  · decide

end EndpointConfiguration

namespace TransportConfig

variable (c : TransportConfig)

theorem isTable (depth : Nat) : IsTable (depth + 2) c.toJson.membersOrNone := by
  refine isTableOf_names [
    "listen_addr", "host_name", "flags", "username", "password", "security", "user_token_policies",
    "trusted_certificates", "hostname_verification", "https_policies"] rfl (by decide) ?_
  have tables : ∀ table ∈ c.security.map (·.toJson.membersOrNone), IsTable (depth + 1) table := by
    intro table listed
    obtain ⟨o, -, rfl⟩ := List.mem_map.mp listed
    exact o.isTable depth
  have security := isMember_tables _ tables
  rw [List.map_map] at security
  simp only [toJson, membersOrNone, List.forall_mem_cons]
  exact ⟨isMember_ofOption _ isMember_text, isMember_ofOption _ isMember_text,
    .value (isValue_list _ fun _ => .text _), isMember_ofOption _ isMember_text,
    isMember_ofOption _ isMember_text, security, .value (isValue_texts _),
    .value (isValue_texts _), isMember_ofOption _ fun _ => isMember_text _,
    .value (isValue_list _ fun _ => .text _), nofun⟩

theorem ofJson?_arranged :
    ofJson? (.object (arranged c.toJson.membersOrNone)) =
      some { c with flags := EngineFlag.set c.flags } := by
  have flags : Gives (asList? EngineFlag.ofJson?) (.list (c.flags.map EngineFlag.toJson)) c.flags :=
    gives_list _ fun f => ⟨.text _, f.ofJson?_toJson⟩
  have security : Gives (asList? SecurityOffer.ofJson?)
      (.list (c.security.map SecurityOffer.toJson)) c.security :=
    gives_tables _ SecurityOffer.ofJson?_arranged
  have verification : Json.optional HostnameVerification.ofJson?
      (kept? (.ofOption HostnameVerification.toJson c.hostnameVerification)) =
        some c.hostnameVerification :=
    optional_kept? _ fun v => gives_of_isValue (.scalar (.text _)) v.ofJson?_toJson
  have https : Gives (asList? HttpsSecurityPolicy.ofJson?)
      (.list (c.httpsPolicies.map HttpsSecurityPolicy.toJson)) c.httpsPolicies :=
    gives_list _ fun p => ⟨.text _, p.ofJson?_toJson⟩
  rw [ofJson?, bind_fields?_arranged]
  · simp [toJson, membersOrNone, optional_kept?_text, flags.orElse, security.orElse,
      (gives_texts _).orElse, verification, https.orElse]
  · rfl
  · decide

/-- Each flag stands once at most and in its order. -/
def HasFlagSet : Prop :=
  c.flags.Sublist [.multiThread, .reuseAddress]

variable {c}

theorem gives_toJson (flags : c.HasFlagSet) : Gives ofJson? c.toJson c := by
  have given := c.ofJson?_arranged
  rw [EngineFlag.set_of_sublist flags] at given
  exact gives_table given

end TransportConfig

namespace ApplicationConfig

variable (c : ApplicationConfig)

theorem isTable (depth : Nat) : IsTable (depth + 3) c.toJson.membersOrNone := by
  refine isTableOf_names [
    "application_uri", "product_uri", "application_name", "locales", "identity", "tcp", "https",
    "limits"] rfl (by decide) ?_
  have identity (i : IdentityConfig) : IsMember (IsTable (depth + 2)) i.toJson :=
    isMember_table List.mem_cons_self (.scalar (.text _)) (i.isTable (depth + 1))
  have transport (t : TransportConfig) : IsMember (IsTable (depth + 2)) t.toJson := by
    have tokens : ("user_token_policies", .ofStrings t.userTokenPolicies) ∈
        t.toJson.membersOrNone := by
      simp [TransportConfig.toJson, membersOrNone]
    exact isMember_table tokens (isValue_texts _) (t.isTable depth)
  have limits : IsMember (IsTable (depth + 2)) c.limits.toJson :=
    isMember_table List.mem_cons_self (.scalar (isScalar_int32 _))
      (c.limits.isTable (depth + 1))
  simp only [toJson, membersOrNone, List.forall_mem_cons]
  exact ⟨isMember_ofOption _ isMember_text, isMember_text _, isMember_text _,
    .value (isValue_texts _), isMember_ofOption _ identity, transport _, transport _, limits,
    nofun⟩

variable {c}

theorem ofJson?_arranged (tcp : c.tcp.HasFlagSet) (https : c.https.HasFlagSet) :
    ofJson? (.object (arranged c.toJson.membersOrNone)) = some c := by
  have identity : Json.optional IdentityConfig.ofJson?
      (kept? (.ofOption IdentityConfig.toJson c.identity)) = some c.identity :=
    optional_kept? _ fun i => gives_table i.ofJson?_arranged
  have limits : Gives EndpointConfiguration.ofJson? c.limits.toJson c.limits :=
    gives_table c.limits.ofJson?_arranged
  rw [ofJson?, bind_fields?_arranged]
  · simp [toJson, membersOrNone, optional_kept?_text, (gives_text _).orElse,
      (gives_texts _).orElse, identity, (TransportConfig.gives_toJson tcp).orElse,
      (TransportConfig.gives_toJson https).orElse, limits.orElse]
  · rfl
  · decide

theorem ofText?_toText (tcp : c.tcp.HasFlagSet) (https : c.https.HasFlagSet) :
    ofText? c.toText = some c := by
  have parsed : parse? c.toText = some (.object (arranged c.toJson.membersOrNone)) :=
    parse?_render (c.isTable 77)
  rw [ofText?, parsed]
  exact ofJson?_arranged tcp https

/-- A configuration is loaded from the bytes that are written for it. -/
theorem load_toText (tcp : c.tcp.HasFlagSet) (https : c.https.HasFlagSet) {read : FileReader}
    {path : String} (held : read path = .ok c.toText.toUTF8.toList) : load read path = c := by
  have decoded : ofBytes? c.toText.toUTF8.toList = some c := by
    rw [ofBytes?, Text.toList_toUTF8, Text.fromUTF8?_utf8, String.ofList_toList]
    exact ofText?_toText tcp https
  rw [load, held]
  dsimp only
  rw [decoded, Option.getD_some]

end ApplicationConfig

end OpcUa
