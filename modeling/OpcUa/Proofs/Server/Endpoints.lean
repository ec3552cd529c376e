import OpcUa.Proofs.Fallible
import OpcUa.Proofs.Security.TokenPolicies
import OpcUa.Server.Context

/-!
# Endpoints and certificates

A server advertises all that it offers or nothing. It is refused without an identity where an offer,
or a token that is accepted with all of them, cannot do without a certificate.
-/

namespace OpcUa

theorem SecurityPolicy.ofOptionalUri_uri (policy : SecurityPolicy) :
    ofOptionalUri (some policy.uri) = .ok policy := by
  rw [ofOptionalUri, if_neg policy.uri_ne_empty]
  exact ofUri_eq_ok_iff.mpr rfl

namespace ServerContext

variable {c : ServerContext} {port : UInt16} {offer : SecurityOffer} {e : EndpointDescription}
  {endpoints : List EndpointDescription} {fault : Fault}

theorem certificateBytes?_eq_none_iff :
    c.certificateBytes? = none ↔ c.security.identity? = none := by
  rw [certificateBytes?, Option.map_eq_none_iff]

theorem needsCertificate_eq_false_iff :
    c.needsCertificate port offer = false ↔ (offer.mode = .none ∧ offer.policy = .none) ∧
      ∀ p ∈ c.tokenPolicies, p.IsUnprotected := by
  have tokens (p : UserTokenPolicy) :
      some p ∈ (c.endpoint port offer).userIdentityTokens ↔ p ∈ c.tokenPolicies := by
    simp [endpoint]
  simp only [needsCertificate, Bool.or_eq_false_iff, bne_eq_false_iff_eq,
    EndpointDescription.requiresCertificate_eq_false_iff, tokens]
  constructor
  · rintro ⟨plain, -, unprotected⟩
    exact ⟨plain, unprotected⟩
  · rintro ⟨⟨mode, policy⟩, unprotected⟩
    refine ⟨⟨mode, policy⟩, ?_, unprotected⟩
    rw [endpoint, mode]
    rfl

theorem offered_eq_ok_iff :
    c.offered port offer = .ok e ↔ c.endpoint port offer = e ∧
      (c.security.identity? = none → c.needsCertificate port offer = false) := by
  rw [offered, ← certificateBytes?_eq_none_iff]
  cases c.needsCertificate port offer <;> cases c.certificateBytes? <;> simp

theorem offered_eq_error_iff :
    c.offered port offer = .error fault ↔
      c.security.identity? = none ∧ c.needsCertificate port offer = true ∧
        fault = .certificateNeeded offer.mode.name offer.policy.name (c.url port) := by
  rw [offered, ← certificateBytes?_eq_none_iff]
  cases c.needsCertificate port offer <;> cases c.certificateBytes? <;> simp [eq_comm]

theorem endpoints_eq_ok_iff :
    c.endpoints port = .ok endpoints ↔ c.offers.map (c.endpoint port) = endpoints ∧
      ∀ offer ∈ c.offers, c.security.identity? = none → c.needsCertificate port offer = false :=
  mapM_eq_ok_iff_map fun _ _ => offered_eq_ok_iff

theorem exists_endpoints_iff :
    (∃ endpoints, c.endpoints port = .ok endpoints) ↔
      (∃ identity, c.security.identity? = some identity) ∨ c.offers = [] ∨
        (∀ offer ∈ c.offers, offer.mode = .none ∧ offer.policy = .none) ∧
          ∀ p ∈ c.tokenPolicies, p.IsUnprotected := by
  simp only [endpoints_eq_ok_iff, exists_eq_left', needsCertificate_eq_false_iff]
  constructor
  · intro provided
    cases missing : c.security.identity? with
    | some identity => exact .inl ⟨identity, rfl⟩
    | none =>
      -- The tokens are the same for every offer, so any offer tells of them.
      cases offered : c.offers with
      | nil => exact .inr (.inl rfl)
      | cons first rest =>
        rw [offered] at provided
        have tokens := (provided first List.mem_cons_self missing).2
        exact .inr (.inr ⟨fun offer given => (provided offer given missing).1, tokens⟩)
  · rintro (⟨identity, present⟩ | unoffered | ⟨plain, tokens⟩) offer given missing
    · cases present.symm.trans missing
    · rw [unoffered] at given
      cases given
    · exact ⟨plain offer given, tokens⟩

theorem endpoints_eq_error_iff :
    c.endpoints port = .error fault ↔ c.security.identity? = none ∧
      ∃ before offer after, c.offers = before ++ offer :: after ∧
        (∀ o ∈ before, c.needsCertificate port o = false) ∧
        c.needsCertificate port offer = true ∧
        fault = .certificateNeeded offer.mode.name offer.policy.name (c.url port) := by
  rw [ServerContext.endpoints, mapM_eq_error_iff]
  constructor
  · rintro ⟨before, offer, after, split, passed, failed⟩
    obtain ⟨missing, needed, named⟩ := offered_eq_error_iff.mp failed
    refine ⟨missing, before, offer, after, split, ?_, needed, named⟩
    intro o earlier
    obtain ⟨e, done⟩ := passed o earlier
    exact (offered_eq_ok_iff.mp done).2 missing
  · rintro ⟨missing, before, offer, after, split, passed, needed, named⟩
    refine ⟨before, offer, after, split, ?_, offered_eq_error_iff.mpr ⟨missing, needed, named⟩⟩
    intro o earlier
    exact ⟨_, offered_eq_ok_iff.mpr ⟨rfl, fun _ => passed o earlier⟩⟩

/-- What an endpoint shows of the offer that it was made for, and of the server. -/
structure Carries (c : ServerContext) (offer : SecurityOffer) (e : EndpointDescription) :
    Prop where
  mode : e.securityMode = offer.mode
  policy : e.securityPolicyUri = some offer.policy.uri
  tokens : e.userIdentityTokens = c.tokenPolicies.map some
  certificate : e.serverCertificate = c.security.identity?.map fun identity =>
    identity.certificate.der ++ (c.security.trustedChain.map Certificate.der).flatten

theorem carries_endpoint (c : ServerContext) (port : UInt16) (offer : SecurityOffer) :
    c.Carries offer (c.endpoint port offer) :=
  ⟨rfl, rfl, rfl, rfl⟩

theorem exists_serverCertificate (given : c.endpoints port = .ok endpoints)
    (advertised : e ∈ endpoints) (secured : e.requiresCertificate = true ∨
      e.securityMode ≠ .none ∨ e.securityPolicy ≠ .ok .none) :
    ∃ bytes, e.serverCertificate = some bytes := by
  obtain ⟨rfl, provided⟩ := endpoints_eq_ok_iff.mp given
  obtain ⟨offer, offered, rfl⟩ := List.mem_map.mp advertised
  cases missing : c.security.identity? with
  | some identity => exact ⟨_, by rw [(c.carries_endpoint port offer).certificate, missing]; rfl⟩
  | none =>
    have spared := provided offer offered missing
    obtain ⟨⟨mode, policy⟩, unprotected⟩ := needsCertificate_eq_false_iff.mp spared
    rw [needsCertificate, Bool.or_eq_false_iff] at spared
    rcases secured with required | signed | protect
    · cases required.symm.trans spared.2
    · exact absurd mode signed
    · refine absurd ?_ protect
      rw [← policy]
      exact offer.policy.ofOptionalUri_uri

/-- Endpoints are given just where the server has an identity, or offers nothing, or nothing that
calls for a certificate; there is then one for each offer, in order. Otherwise the first offer that
calls for one is named in the fault. -/
theorem endpoints_and_certificates (c : ServerContext) (port : UInt16) :
    ((∃ endpoints, c.endpoints port = .ok endpoints) ↔
      (∃ identity, c.security.identity? = some identity) ∨ c.offers = [] ∨
        (∀ offer ∈ c.offers, offer.mode = .none ∧ offer.policy = .none) ∧
          ∀ p ∈ c.tokenPolicies, p.tokenType ≠ .certificate ∧ p.securityPolicy = .ok .none) ∧
    (∀ endpoints, c.endpoints port = .ok endpoints →
      endpoints.length = c.offers.length ∧
      (∀ (i : Nat) (offer : SecurityOffer) (e : EndpointDescription),
        c.offers[i]? = some offer → endpoints[i]? = some e → c.Carries offer e) ∧
      ∀ e ∈ endpoints,
        e.requiresCertificate = true ∨ e.securityMode ≠ .none ∨ e.securityPolicy ≠ .ok .none →
          ∃ bytes, e.serverCertificate = some bytes) ∧
    ∀ fault, c.endpoints port = .error fault → fault.kind = .unexpectedConfiguration ∧
      ∃ before offer after, c.offers = before ++ offer :: after ∧
        (∀ o ∈ before, c.needsCertificate port o = false) ∧
        c.needsCertificate port offer = true ∧
        fault = .certificateNeeded offer.mode.name offer.policy.name (c.url port) := by
  refine ⟨exists_endpoints_iff, ?_, ?_⟩
  · intro endpoints given
    obtain ⟨rfl, -⟩ := endpoints_eq_ok_iff.mp given
    refine ⟨List.length_map _, ?_, fun e advertised => exists_serverCertificate given advertised⟩
    intro i offer e offered advertised
    rw [List.getElem?_map, offered] at advertised
    cases advertised
    exact c.carries_endpoint port offer
  · intro fault failed
    obtain ⟨-, before, offer, after, split, passed, needed, rfl⟩ := endpoints_eq_error_iff.mp failed
    exact ⟨rfl, before, offer, after, split, passed, needed, rfl⟩

end ServerContext

end OpcUa
