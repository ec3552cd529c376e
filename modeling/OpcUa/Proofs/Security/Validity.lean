import OpcUa.Security.Certificate
import Mathlib.Tactic.SplitIfs

/-!
# Windows of validity

A certificate is valid from the first to the last instant of its window, both included.
-/

namespace OpcUa

instance : LE Instant :=
  ⟨fun a b => a.seconds < b.seconds ∨ a.seconds = b.seconds ∧ a.nanos ≤ b.nanos⟩

instance (a b : Instant) : Decidable (a ≤ b) :=
  inferInstanceAs (Decidable (a.seconds < b.seconds ∨ a.seconds = b.seconds ∧ a.nanos ≤ b.nanos))

theorem Instant.before_eq_false_iff {a b : Instant} : a.before b = false ↔ b ≤ a := by
  show _ ↔ b.seconds < a.seconds ∨ b.seconds = a.seconds ∧ b.nanos ≤ a.nanos
  simp only [before, Bool.or_eq_false_iff, Bool.and_eq_false_iff, decide_eq_false_iff_not,
    beq_eq_false_iff_ne]
  omega

namespace Certificate

variable {c : Certificate} {now : Instant} {fault : Fault}

theorem checkValidity_eq_ok_iff :
    c.checkValidity now = .ok () ↔ c.notBefore ≤ now ∧ now ≤ c.notAfter := by
  rw [← Instant.before_eq_false_iff, ← Instant.before_eq_false_iff]
  unfold checkValidity
  cases now.before c.notBefore <;> cases c.notAfter.before now <;> simp

theorem kind_of_checkValidity (refused : c.checkValidity now = .error fault) :
    fault.kind = .certificateTimeInvalid := by
  unfold checkValidity at refused
  split_ifs at refused <;> cases refused <;> rfl

theorem exists_checkValidity_error :
    (∃ fault, c.checkValidity now = .error fault) ↔ ¬ (c.notBefore ≤ now ∧ now ≤ c.notAfter) := by
  rw [← checkValidity_eq_ok_iff]
  cases c.checkValidity now <;> simp

end Certificate

end OpcUa
