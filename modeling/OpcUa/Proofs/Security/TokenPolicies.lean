import OpcUa.Security.Negotiation

/-!
# Token policies and certificates

A token policy is bound to the security policy that its URI names. The need of a certificate is read
off the URI as it stands, the choice of a policy off what it names: both tell protected tokens from
others alike.
-/

namespace OpcUa

namespace SecurityPolicy

theorem mem_all (policy : SecurityPolicy) : policy ∈ all := by
  cases policy <;> decide

theorem name_injective {a b : SecurityPolicy} (same : a.name = b.name) : a = b := by
  cases a <;> cases b <;> first | rfl | exact absurd same (by decide)

theorem uri_injective {a b : SecurityPolicy} (same : a.uri = b.uri) : a = b :=
  name_injective ((String.append_right_inj uriStem).mp same)

theorem uri_ne_empty (policy : SecurityPolicy) : policy.uri ≠ "" := by
  cases policy <;> decide

theorem ofUri_eq_ok_iff {uri : String} {policy : SecurityPolicy} :
    ofUri uri = .ok policy ↔ policy.uri = uri := by
  unfold ofUri
  cases found : all.find? (·.uri == uri) with
  | none =>
    have unlike : policy.uri ≠ uri := by
      simpa using List.find?_eq_none.mp found policy policy.mem_all
    simp [unlike]
  | some other =>
    have same : other.uri = uri := by simpa using List.find?_some found
    constructor
    · rintro ⟨⟩
      exact same
    · intro named
      rw [uri_injective (named.trans same.symm)]

end SecurityPolicy

namespace UserTokenPolicy

variable {p : UserTokenPolicy} {policy : SecurityPolicy}

/-- The security policy that the URI names; an absent or empty one names that without security. -/
def Names (p : UserTokenPolicy) (policy : SecurityPolicy) : Prop :=
  p.securityPolicyUri = some policy.uri ∨
    policy = .none ∧ (p.securityPolicyUri = none ∨ p.securityPolicyUri = some "")

instance : Decidable (p.Names policy) :=
  inferInstanceAs (Decidable (_ ∨ _))

theorem securityPolicy_eq_ok_iff : p.securityPolicy = .ok policy ↔ p.Names policy := by
  unfold securityPolicy Names SecurityPolicy.ofOptionalUri
  cases p.securityPolicyUri with
  | none => simp [eq_comm]
  | some uri =>
    by_cases empty : uri = ""
    · have unlike : "" ≠ policy.uri := policy.uri_ne_empty.symm
      simp [empty, unlike, eq_comm]
    · simp only [empty, if_false, SecurityPolicy.ofUri_eq_ok_iff]
      simp [empty, eq_comm]

/-- Neither a certificate nor bound to a policy with security. -/
def IsUnprotected (p : UserTokenPolicy) : Prop :=
  p.tokenType ≠ .certificate ∧ p.securityPolicy = .ok .none

theorem isSecured_eq_false_iff : p.isSecured = false ↔ p.IsUnprotected := by
  rw [IsUnprotected, securityPolicy_eq_ok_iff]
  unfold isSecured Names
  cases p.securityPolicyUri with
  | none => simp
  | some uri => by_cases empty : uri = "" <;> simp [empty]

/-- Bound to a security policy that is not off. -/
def IsUsable (p : UserTokenPolicy) (off : List SecurityPolicy) : Prop :=
  ∃ policy, p.Names policy ∧ policy ∉ off

end UserTokenPolicy

namespace Negotiator

variable {n : Negotiator} {p : UserTokenPolicy}

theorem canUse_iff : n.canUse p = true ↔ p.IsUsable n.disabled := by
  unfold canUse
  cases read : p.securityPolicy with
  | error fault =>
    have nameless (policy : SecurityPolicy) : ¬ p.Names policy := by
      intro named
      cases read.symm.trans (UserTokenPolicy.securityPolicy_eq_ok_iff.mpr named)
    simp [UserTokenPolicy.IsUsable, nameless]
  | ok policy =>
    have named := UserTokenPolicy.securityPolicy_eq_ok_iff.mp read
    constructor
    · intro enabled
      exact ⟨policy, named, by simpa [isEnabled] using enabled⟩
    · rintro ⟨other, otherNamed, enabled⟩
      cases read.symm.trans (UserTokenPolicy.securityPolicy_eq_ok_iff.mpr otherNamed)
      simpa [isEnabled] using enabled

theorem of_policyFor? {e : EndpointDescription} {type : UserTokenType}
    (chosen : n.policyFor? e type = some p) :
    p ∈ e.tokenPolicies ∧ p.IsUsable n.disabled ∧ p.tokenType = type := by
  have accepted := List.find?_some chosen
  rw [Bool.and_eq_true, canUse_iff, beq_iff_eq] at accepted
  exact ⟨List.mem_of_find?_eq_some chosen, accepted⟩

end Negotiator

namespace EndpointDescription

variable {e : EndpointDescription} {p : UserTokenPolicy}

theorem mem_tokenPolicies : p ∈ e.tokenPolicies ↔ some p ∈ e.userIdentityTokens := by
  simp [tokenPolicies]

theorem requiresCertificate_eq_false_iff :
    e.requiresCertificate = false ↔ e.securityMode.signs = false ∧
      ∀ p, some p ∈ e.userIdentityTokens → p.IsUnprotected := by
  simp only [requiresCertificate, Bool.or_eq_false_iff, List.any_eq_false, mem_tokenPolicies,
    Bool.not_eq_true, UserTokenPolicy.isSecured_eq_false_iff]

theorem requiresCertificate_congr {other : EndpointDescription}
    (mode : other.securityMode = e.securityMode)
    (entries : ∀ p, some p ∈ other.userIdentityTokens ↔ some p ∈ e.userIdentityTokens) :
    other.requiresCertificate = e.requiresCertificate := by
  apply Bool.eq_iff_iff.mpr
  simp only [requiresCertificate, Bool.or_eq_true, List.any_eq_true, mem_tokenPolicies, mode,
    entries]

theorem isUnprotected_of_policyFor? {n : Negotiator} {type : UserTokenType}
    (spared : e.requiresCertificate = false) (chosen : n.policyFor? e type = some p) :
    p.IsUnprotected := by
  obtain ⟨-, unprotected⟩ := requiresCertificate_eq_false_iff.mp spared
  exact unprotected p (mem_tokenPolicies.mp (Negotiator.of_policyFor? chosen).1)

theorem requiresCertificate_of_nameless (present : some p ∈ e.userIdentityTokens)
    (nameless : ∀ policy, ¬ p.Names policy) : e.requiresCertificate = true := by
  apply Bool.of_not_eq_false
  intro spared
  have bare := ((requiresCertificate_eq_false_iff.mp spared).2 p present).2
  exact nameless .none (UserTokenPolicy.securityPolicy_eq_ok_iff.mp bare)

theorem policyFor?_ne_of_nameless (nameless : ∀ policy, ¬ p.Names policy) (n : Negotiator)
    (type : UserTokenType) : n.policyFor? e type ≠ some p := by
  intro chosen
  obtain ⟨-, ⟨policy, named, -⟩, -⟩ := Negotiator.of_policyFor? chosen
  exact nameless policy named

/-- Whether a certificate is needed is a matter of the mode and of the entries that are present,
whatever their order and whoever asks. Where none is needed no client is given a protected token; an
unknown URI makes one needed, and no client is given its entry. -/
theorem certificate_and_choice (e : EndpointDescription) :
    (e.requiresCertificate = false ↔ e.securityMode.signs = false ∧
      ∀ p, some p ∈ e.userIdentityTokens →
        p.tokenType ≠ .certificate ∧ p.securityPolicy = .ok .none) ∧
    (∀ other : EndpointDescription, other.securityMode = e.securityMode →
      (∀ p, some p ∈ other.userIdentityTokens ↔ some p ∈ e.userIdentityTokens) →
        other.requiresCertificate = e.requiresCertificate) ∧
    (e.requiresCertificate = false →
      ∀ (n : Negotiator) (type : UserTokenType) (p : UserTokenPolicy),
        n.policyFor? e type = some p →
          p.tokenType ≠ .certificate ∧ p.securityPolicy = .ok .none) ∧
    ∀ p, some p ∈ e.userIdentityTokens → (∀ policy, ¬ p.Names policy) →
      e.requiresCertificate = true ∧
        ∀ (n : Negotiator) (type : UserTokenType), n.policyFor? e type ≠ some p := by
  refine ⟨requiresCertificate_eq_false_iff, ?_, ?_, ?_⟩
  · intro other mode entries
    exact requiresCertificate_congr mode entries
  · intro spared n type p chosen
    exact isUnprotected_of_policyFor? spared chosen
  · intro p present nameless
    exact ⟨requiresCertificate_of_nameless present nameless, policyFor?_ne_of_nameless nameless⟩

end EndpointDescription

end OpcUa
