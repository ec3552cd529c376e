import OpcUa.Security.Configuration

/-!
# Overlays

A configuration that is laid over another replaces what is set in it, and a name and a password only
where it has both. Layers can be joined before they are laid over something: half of a pair is
dropped on the way or stays below, and no other layer completes it.
-/

namespace OpcUa.TransportSecurity

variable {s below upper result other : TransportSecurity} {c : Credentials}

attribute [ext] TransportSecurity

theorem credentials?_eq_some_iff :
    s.credentials? = some c ↔ s.username = some c.username ∧ s.password = some c.password := by
  unfold credentials?
  cases s.username with
  | none => simp
  | some username =>
    cases s.password with
    | none => simp
    | some password =>
      obtain ⟨name, word⟩ := c
      simp

theorem credentials?_congr (username : s.username = other.username)
    (password : s.password = other.password) : s.credentials? = other.credentials? := by
  rw [credentials?, username, password, credentials?]

theorem orElse_eq {α : Type} (above below : Option α) : (above <|> below) = above.or below := by
  rw [Option.orElse_eq_orElse, Option.orElse_eq_or]

/-- What is set above replaces what is below as a whole, and all else stays. -/
structure IsOverlay (below upper result : TransportSecurity) : Prop where
  kind : result.kind = below.kind
  identityMaterial : result.identityMaterial = upper.identityMaterial.or below.identityMaterial
  trust : result.trust = upper.trust.or below.trust
  flags : result.flags = upper.flags.or below.flags
  hostnameVerification :
    result.hostnameVerification = upper.hostnameVerification.or below.hostnameVerification
  httpsPolicies : result.httpsPolicies = upper.httpsPolicies.or below.httpsPolicies
  replaced : ∀ c, upper.credentials? = some c →
    result.username = some c.username ∧ result.password = some c.password
  kept : upper.credentials? = none →
    result.username = below.username ∧ result.password = below.password

theorem isOverlay (s upper : TransportSecurity) : IsOverlay s upper (s.overlay upper) where
  kind := rfl
  identityMaterial := orElse_eq _ _
  trust := orElse_eq _ _
  flags := orElse_eq _ _
  hostnameVerification := orElse_eq _ _
  httpsPolicies := orElse_eq _ _
  replaced c given := by
    simp only [overlay, given, Option.isSome_some, if_true]
    exact credentials?_eq_some_iff.mp given
  kept missing := by
    simp only [overlay, missing, Option.isSome_none, Bool.false_eq_true, if_false, and_self]

namespace IsOverlay

theorem unique (laid : IsOverlay below upper result) (again : IsOverlay below upper other) :
    result = other := by
  have pair : result.username = other.username ∧ result.password = other.password := by
    cases given : upper.credentials? with
    | none =>
      obtain ⟨username, password⟩ := laid.kept given
      obtain ⟨username', password'⟩ := again.kept given
      exact ⟨username.trans username'.symm, password.trans password'.symm⟩
    | some c =>
      obtain ⟨username, password⟩ := laid.replaced c given
      obtain ⟨username', password'⟩ := again.replaced c given
      exact ⟨username.trans username'.symm, password.trans password'.symm⟩
  apply TransportSecurity.ext
  · exact laid.kind.trans again.kind.symm
  · exact laid.identityMaterial.trans again.identityMaterial.symm
  · exact laid.trust.trans again.trust.symm
  · exact pair.1
  · exact pair.2
  · exact laid.flags.trans again.flags.symm
  · exact laid.hostnameVerification.trans again.hostnameVerification.symm
  · exact laid.httpsPolicies.trans again.httpsPolicies.symm

theorem credentials? (laid : IsOverlay below upper result) :
    result.credentials? = upper.credentials?.or below.credentials? := by
  cases given : upper.credentials? with
  | none =>
    obtain ⟨username, password⟩ := laid.kept given
    exact credentials?_congr username password
  | some c => exact credentials?_eq_some_iff.mpr (laid.replaced c given)

theorem refl (s : TransportSecurity) : IsOverlay s s s where
  kind := rfl
  identityMaterial := Option.or_self.symm
  trust := Option.or_self.symm
  flags := Option.or_self.symm
  hostnameVerification := Option.or_self.symm
  httpsPolicies := Option.or_self.symm
  replaced _ given := credentials?_eq_some_iff.mp given
  kept _ := ⟨rfl, rfl⟩

/-- Two layers, one after the other, are the layer that they make together. -/
theorem join {middle joined : TransportSecurity} (first : IsOverlay below middle other)
    (together : IsOverlay middle upper joined) (second : IsOverlay other upper result) :
    IsOverlay below joined result where
  kind := second.kind.trans first.kind
  identityMaterial := by
    rw [second.identityMaterial, first.identityMaterial, together.identityMaterial, Option.or_assoc]
  trust := by rw [second.trust, first.trust, together.trust, Option.or_assoc]
  flags := by rw [second.flags, first.flags, together.flags, Option.or_assoc]
  hostnameVerification := by
    rw [second.hostnameVerification, first.hostnameVerification, together.hostnameVerification,
      Option.or_assoc]
  httpsPolicies := by
    rw [second.httpsPolicies, first.httpsPolicies, together.httpsPolicies, Option.or_assoc]
  replaced := by
    intro c given
    rw [together.credentials?] at given
    rcases Option.or_eq_some_iff.mp given with above | ⟨missing, between⟩
    · exact second.replaced c above
    · -- The half that the upper layer may have is dropped, and the pair is that of the middle one.
      obtain ⟨username, password⟩ := second.kept missing
      rw [username, password]
      exact first.replaced c between
  kept := by
    intro missing
    rw [together.credentials?, Option.or_eq_none_iff] at missing
    obtain ⟨username, password⟩ := second.kept missing.1
    rw [username, password]
    exact first.kept missing.2

end IsOverlay

theorem overlay_self (s : TransportSecurity) : s.overlay s = s :=
  (isOverlay s s).unique (IsOverlay.refl s)

theorem overlay_assoc (a b c : TransportSecurity) :
    (a.overlay b).overlay c = a.overlay (b.overlay c) :=
  ((isOverlay a b).join (isOverlay b c) (isOverlay (a.overlay b) c)).unique
    (isOverlay a (b.overlay c))

theorem foldl_overlay (a b : TransportSecurity) (layers : List TransportSecurity) :
    layers.foldl overlay (a.overlay b) = a.overlay (layers.foldl overlay b) := by
  induction layers generalizing b with
  | nil => rfl
  | cons layer layers ih => rw [List.foldl_cons, List.foldl_cons, overlay_assoc, ih]

/-- Layers can be joined from above or from below, however many there are. One that is laid twice
counts once and one without settings not at all. Each setting is that of the highest layer that has
it, and name and password are those of one layer. -/
theorem overlay_laws (a b c : TransportSecurity) :
    (a.overlay b).overlay c = a.overlay (b.overlay c) ∧
    (∀ layers : List TransportSecurity,
      layers.foldl overlay (a.overlay b) = a.overlay (layers.foldl overlay b)) ∧
    (a.overlay b).overlay b = a.overlay b ∧
    (∀ kind, a.overlay { kind } = a) ∧
    IsOverlay a b (a.overlay b) ∧
    (a.overlay b).credentials? = b.credentials?.or a.credentials? ∧
    ∃ whole ∈ [a, b], (a.overlay b).username = whole.username ∧
      (a.overlay b).password = whole.password := by
  have laid := isOverlay a b
  refine ⟨overlay_assoc a b c, foldl_overlay a b, ?_, fun _ => rfl, laid, laid.credentials?, ?_⟩
  · rw [overlay_assoc, overlay_self]
  · cases given : b.credentials? with
    | none => exact ⟨a, by simp, laid.kept given⟩
    | some pair =>
      obtain ⟨username, password⟩ := credentials?_eq_some_iff.mp given
      refine ⟨b, by simp, ?_⟩
      rw [username, password]
      exact laid.replaced pair given

example (s : TransportSecurity) :
    (s.overlay { kind := .https, username := some "operator" }).overlay
      { kind := .https, password := some "secret" } = s :=
  rfl

end OpcUa.TransportSecurity
