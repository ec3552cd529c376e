import OpcUa.Proofs.Application.Checked
import OpcUa.Proofs.Application.Runs
import OpcUa.Proofs.Server.Advertised

/-!
# Presented identities

A server presents the material that its transport was given last, and the current identity of the
application if it has none. What happens to the other transport has no part in it.
-/

namespace OpcUa

namespace ServerContext

end ServerContext

namespace Application

variable {a b : Application} {kind : TransportKind} {m : IdentityMaterial}

/-! ### Material of a transport -/

theorem security_setSecurity (a : Application) (s : TransportSecurity) (kind : TransportKind) :
    (a.setSecurity s).security kind = if s.kind = kind then s else a.security kind := by
  unfold setSecurity
  split <;> rename_i given <;> rw [given] <;> cases kind <;> rfl

theorem security_overlaySecurity (a : Application) (upper : TransportSecurity)
    (kind : TransportKind) : (a.overlaySecurity upper).security kind =
      if upper.kind = kind then (a.security kind).overlay upper else a.security kind := by
  unfold overlaySecurity
  split <;> rename_i given <;> rw [given] <;> cases kind <;> rfl

/-- Whether each transport has no material, or some with an identity in it. -/
def IsArmed (a : Application) : Prop :=
  ∀ kind, (a.security kind).IsArmed

/-- Whether the event is about the application or the transport, and not about the other one. -/
def Event.concerns (kind : TransportKind) : Event → Bool
  | .setSecurity made | .overlaySecurity made => made.result.kind == kind
  | _ => true

/-- All that a server of the transport is made from, but for the security of the transport. -/
def besides (a : Application) (kind : TransportKind) :
    ApplicationDescription × TransportSettings × EndpointConfiguration × List Identity :=
  (a.description, a.settings kind, a.limits, a.identities)

theorem besides_setSecurity (a : Application) (s : TransportSecurity) :
    (a.setSecurity s).besides kind = a.besides kind := by
  unfold setSecurity
  split <;> cases kind <;> rfl

theorem besides_overlaySecurity (a : Application) (upper : TransportSecurity) :
    (a.overlaySecurity upper).besides kind = a.besides kind := by
  unfold overlaySecurity
  split <;> cases kind <;> rfl

/-- Whether two applications make the same of the transport. -/
structure AlikeFor (kind : TransportKind) (a b : Application) : Prop where
  besides : a.besides kind = b.besides kind
  security : a.security kind = b.security kind

namespace AlikeFor

theorem serverContext (alike : AlikeFor kind a b) :
    a.serverContext kind = b.serverContext kind := by
  obtain ⟨description, settings, limits, identities⟩ :
      a.description = b.description ∧ a.settings kind = b.settings kind ∧ a.limits = b.limits ∧
        a.identities = b.identities := by
    simpa only [Application.besides, Prod.mk.injEq] using alike.besides
  simp only [Application.serverContext, effectiveSecurity, currentIdentity?, description, settings,
    limits, identities, alike.security]

theorem step (alike : AlikeFor kind a b) (e : Event) : AlikeFor kind (a.step e) (b.step e) := by
  obtain ⟨besides, security⟩ := alike
  cases e with
  | addIdentity identity =>
    exact ⟨congrArg (fun (d, s, l, identities) => (d, s, l, identities ++ [identity])) besides,
      security⟩
  | removeIdentity identity =>
    exact ⟨congrArg (fun (d, s, l, identities) => (d, s, l, identities.erase identity)) besides,
      security⟩
  | setSecurity made =>
    refine ⟨(besides_setSecurity a _).trans (besides.trans (besides_setSecurity b _).symm), ?_⟩
    rw [Application.step, Application.step, security_setSecurity, security_setSecurity, security]
  | overlaySecurity made =>
    refine ⟨(besides_overlaySecurity a _).trans
      (besides.trans (besides_overlaySecurity b _).symm), ?_⟩
    rw [Application.step, Application.step, security_overlaySecurity, security_overlaySecurity,
      security]

theorem trans {c : Application} (first : AlikeFor kind a b) (second : AlikeFor kind b c) :
    AlikeFor kind a c where
  besides := first.besides.trans second.besides
  security := first.security.trans second.security

end AlikeFor

end Application

end OpcUa
