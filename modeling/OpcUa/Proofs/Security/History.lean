import OpcUa.Proofs.Security.Overlay

/-!
# Histories of configurations

A configuration of a transport comes about from an empty one, by changes and by laying others over
it, which have histories of their own. A change that fails leaves the configuration as it was.
-/

namespace OpcUa.TransportSecurity

variable {s after : TransportSecurity}

inductive Change where
  | setIdentity (identity : Identity) (chain : List Certificate)
  | setIdentityFromParts (certificate : Certificate) (key : Option PrivateKey)
  | setIdentities (identities : List Identity) (chain : List Certificate)
  | clearIdentity
  | setTrust (policy : TrustPolicy)
  | setUsername (username : String)
  | setPassword (password : String)
  | setCredentials (credentials : Credentials)
  | setFlags (flags : List EngineFlag)
  | setHostnameVerification (mode : HostnameVerification)
  | setHttpsPolicies (policies : List HttpsSecurityPolicy)

def change (s : TransportSecurity) : Change → Except Fault TransportSecurity
  | .setIdentity identity chain => .ok (s.setIdentity identity chain)
  | .setIdentityFromParts certificate key => s.setIdentityFromParts certificate key
  | .setIdentities identities chain => s.setIdentities identities chain
  | .clearIdentity => .ok s.clearIdentity
  | .setTrust policy => .ok (s.setTrust policy)
  | .setUsername username => .ok (s.setUsername username)
  | .setPassword password => .ok (s.setPassword password)
  | .setCredentials credentials => .ok (s.setCredentials credentials)
  | .setFlags flags => .ok (s.setFlags flags)
  | .setHostnameVerification mode => s.setHostnameVerification mode
  | .setHttpsPolicies policies => s.setHttpsPolicies policies

namespace Change

/-- The mode of hostname verification that is given. -/
def mode? : Change → Option HostnameVerification
  | .setHostnameVerification mode => some mode
  | _ => none

/-- The HTTPS policies that are given. -/
def policies? : Change → Option (List HttpsSecurityPolicy)
  | .setHttpsPolicies policies => some policies
  | _ => none

end Change

inductive History where
  | new (kind : TransportKind)
  | change (before : History) (change : Change)
  | overlay (below upper : History)

namespace History

/-- The configuration that has come about. -/
def result : History → TransportSecurity
  | .new kind => { kind }
  | .change before c =>
    match before.result.change c with
    | .ok s => s
    | .error _ => before.result
  | .overlay below upper => below.result.overlay upper.result

/-- The changes that were tried on the configuration itself. -/
def changes : History → List Change
  | .new _ => []
  | .change before c => before.changes ++ [c]
  | .overlay below _ => below.changes

/-- What was laid over the configuration, at once or over what was laid there. -/
def laidOver : History → List History
  | .new _ => []
  | .change before _ => before.laidOver
  | .overlay below upper => below.laidOver ++ upper :: upper.laidOver

end History

/-! ### What a change does -/

theorem forHttps_eq_ok {setting : String} {changed : TransportSecurity}
    (done : s.forHttps setting changed = .ok after) : s.kind = .https ∧ after = changed := by
  unfold forHttps at done
  split at done
  · rename_i https
    cases done
    exact ⟨https, rfl⟩
  · cases done

theorem setIdentities_eq_ok {identities : List Identity} {chain : List Certificate}
    (done : s.setIdentities identities chain = .ok after) :
    identities ≠ [] ∧ after = { s with identityMaterial := some ⟨identities, chain⟩ } := by
  unfold setIdentities at done
  split at done
  · cases done
  · rename_i given
    cases done
    exact ⟨fun none_given => given (List.isEmpty_iff.mpr none_given), rfl⟩

theorem setIdentityFromParts_eq_ok {certificate : Certificate} {key : Option PrivateKey}
    (done : s.setIdentityFromParts certificate key = .ok after) :
    ∃ identity, identity.certificate = certificate ∧ after = s.setIdentity identity [] := by
  unfold setIdentityFromParts at done
  split at done
  · cases done
  · unfold Identity.of at done
    split at done <;> cases done
    exact ⟨_, rfl, rfl⟩

/-- Whether there is no material, or some with an identity in it. -/
def IsArmed (s : TransportSecurity) : Prop :=
  ∀ m, s.identityMaterial = some m → m.identities ≠ []

/-- A change that is made leaves the transport as it is and brings no material without an identity.
It gives settings of HTTPS to a configuration for HTTPS alone. -/
theorem change_eq_ok {c : Change} (done : s.change c = .ok after) :
    after.kind = s.kind ∧ (s.IsArmed → after.IsArmed) ∧
      after.hostnameVerification = c.mode?.or s.hostnameVerification ∧
      after.httpsPolicies = c.policies?.or s.httpsPolicies ∧
      (c.mode? = none ∧ c.policies? = none ∨ s.kind = .https) := by
  have armed {m : IdentityMaterial} (given : m.identities ≠ []) :
      IsArmed { s with identityMaterial := some m } := by
    rintro _ ⟨⟩
    exact given
  cases c with
  | setIdentity identity chain =>
    cases done
    exact ⟨rfl, fun _ => armed (List.cons_ne_nil _ _), rfl, rfl, .inl ⟨rfl, rfl⟩⟩
  | setIdentityFromParts certificate key =>
    obtain ⟨identity, -, rfl⟩ := setIdentityFromParts_eq_ok done
    exact ⟨rfl, fun _ => armed (List.cons_ne_nil _ _), rfl, rfl, .inl ⟨rfl, rfl⟩⟩
  | setIdentities identities chain =>
    obtain ⟨given, rfl⟩ := setIdentities_eq_ok done
    exact ⟨rfl, fun _ => armed given, rfl, rfl, .inl ⟨rfl, rfl⟩⟩
  | clearIdentity =>
    cases done
    exact ⟨rfl, fun _ => nofun, rfl, rfl, .inl ⟨rfl, rfl⟩⟩
  | setTrust | setUsername | setPassword | setCredentials | setFlags =>
    cases done
    exact ⟨rfl, id, rfl, rfl, .inl ⟨rfl, rfl⟩⟩
  | setHostnameVerification mode =>
    obtain ⟨https, rfl⟩ := forHttps_eq_ok done
    exact ⟨rfl, id, rfl, rfl, .inr https⟩
  | setHttpsPolicies policies =>
    obtain ⟨https, rfl⟩ := forHttps_eq_ok done
    exact ⟨rfl, id, rfl, rfl, .inr https⟩

/-! ### What a history leads to -/

namespace History

theorem kind_result_change (before : History) (c : Change) :
    (before.change c).result.kind = before.result.kind := by
  rw [result]
  split
  · rename_i done
    exact (change_eq_ok done).1
  · rfl

theorem kind_result_overlay (below upper : History) :
    (below.overlay upper).result.kind = below.result.kind := rfl

end History

end OpcUa.TransportSecurity
