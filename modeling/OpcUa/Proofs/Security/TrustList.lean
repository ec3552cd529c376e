import OpcUa.Proofs.Security.Validity
import OpcUa.Security.Trust
import Mathlib.Data.List.DropRight
import Mathlib.Data.List.Induction

/-!
# Trust lists

A trust list is made from certificates and changed from then on. Whether a certificate is trusted is
a matter of the last change that named its thumbprint, or of the certificates that the list was made
from where none did. The list holds every thumbprint once because it is kept in order.
-/

namespace OpcUa

namespace Thumbprint

variable {t u v : Thumbprint}

theorem before_iff : t.before u = true ↔ compare t.bytes u.bytes = .lt :=
  Ordering.isLT_iff_eq_lt

theorem before_trans (first : t.before u = true) (second : u.before v = true) :
    t.before v = true :=
  before_iff.mpr (Std.TransCmp.lt_trans (before_iff.mp first) (before_iff.mp second))

theorem ne_of_before (less : t.before u = true) : t ≠ u := by
  rintro rfl
  cases (before_iff.mp less).symm.trans Std.ReflCmp.compare_self

theorem before_of_ne (differ : t ≠ u) (notLess : ¬ t.before u = true) : u.before t = true := by
  have swapped : compare u.bytes t.bytes = (compare t.bytes u.bytes).swap :=
    Std.OrientedCmp.eq_swap
  rw [before_iff] at notLess ⊢
  rw [swapped]
  cases order : compare t.bytes u.bytes with
  | lt => exact (notLess order).elim
  | eq =>
    obtain ⟨bytes, size⟩ := t
    obtain ⟨bytes', size'⟩ := u
    cases Std.LawfulEqCmp.eq_of_compare order
    exact (differ rfl).elim
  | gt => rfl

end Thumbprint

namespace TrustList

variable {l : TrustList} {t u : Thumbprint} {ts : List Thumbprint} {c : Certificate} {now : Instant}

/-! ### The order -/

/-- Each thumbprint stands before all that come later, so none stands there twice. -/
def IsOrdered (ts : List Thumbprint) : Prop :=
  ts.Pairwise fun t u => t.before u = true

theorem IsOrdered.nodup (ordered : IsOrdered ts) : ts.Nodup :=
  ordered.imp Thumbprint.ne_of_before

@[simp] theorem mem_insert : u ∈ insert t ts ↔ u = t ∨ u ∈ ts := by
  induction ts with
  | nil => simp [insert]
  | cons first rest ih =>
    rw [insert]
    split
    · rename_i same
      subst same
      simp
    · split
      · simp
      · simp only [List.mem_cons, ih, or_left_comm]

theorem isOrdered_insert (ordered : IsOrdered ts) : IsOrdered (insert t ts) := by
  induction ts with
  | nil => exact List.pairwise_singleton _ _
  | cons first rest ih =>
    obtain ⟨least, later⟩ := List.pairwise_cons.mp ordered
    rw [insert]
    split
    · exact ordered
    · rename_i differ
      split
      · rename_i less
        refine List.pairwise_cons.mpr ⟨fun u member => ?_, ordered⟩
        rcases List.mem_cons.mp member with rfl | member
        · exact less
        · exact Thumbprint.before_trans less (least u member)
      · rename_i notLess
        refine List.pairwise_cons.mpr ⟨fun u member => ?_, ih later⟩
        rcases mem_insert.mp member with rfl | member
        · exact Thumbprint.before_of_ne differ notLess
        · exact least u member

theorem mem_ofCertificates {cs : List Certificate} :
    t ∈ (ofCertificates cs).trusted ↔ ∃ c ∈ cs, c.thumbprint = t := by
  have grown (l : TrustList) :
      t ∈ (cs.foldl (fun l c => l.trust c.thumbprint) l).trusted ↔
        t ∈ l.trusted ∨ ∃ c ∈ cs, c.thumbprint = t := by
    induction cs generalizing l with
    | nil => simp
    | cons c cs ih =>
      rw [List.foldl_cons, ih]
      simp only [trust, mem_insert, List.exists_mem_cons_iff, eq_comm (a := t), or_assoc,
        or_left_comm]
  rw [ofCertificates, grown]
  simp

theorem isOrdered_ofCertificates (cs : List Certificate) :
    IsOrdered (ofCertificates cs).trusted := by
  have grown (l : TrustList) (ordered : IsOrdered l.trusted) :
      IsOrdered (cs.foldl (fun l c => l.trust c.thumbprint) l).trusted := by
    induction cs generalizing l with
    | nil => exact ordered
    | cons c cs ih => exact ih _ (isOrdered_insert ordered)
  exact grown {} .nil

theorem checkTime_ofCertificates (cs : List Certificate) :
    (ofCertificates cs).checkTime = false := by
  have kept (l : TrustList) :
      (cs.foldl (fun l c => l.trust c.thumbprint) l).checkTime = l.checkTime := by
    induction cs generalizing l with
    | nil => rfl
    | cons c cs ih => exact ih _
  exact kept {}

/-! ### Changes -/

inductive Change where
  | trust (t : Thumbprint)
  | revoke (t : Thumbprint)
  /-- A list is made in place of the one before. -/
  | ofCertificates (certificates : List Certificate)
  | withTimeCheck (enabled : Bool)

def step (l : TrustList) : Change → TrustList
  | .trust t => l.trust t
  | .revoke t => (l.revoke t).1
  | .ofCertificates cs => .ofCertificates cs
  | .withTimeCheck enabled => l.withTimeCheck enabled

/-- What an empty list comes to. -/
def run (changes : List Change) : TrustList :=
  changes.foldl step {}

namespace Change

/-- The certificates that a list is made from. -/
def made? : Change → Option (List Certificate)
  | .ofCertificates cs => some cs
  | _ => none

/-- Whether the thumbprint is trusted or revoked, if it is named. -/
def names? (t : Thumbprint) : Change → Option Bool
  | .trust u => if u = t then some true else none
  | .revoke u => if u = t then some false else none
  | _ => none

/-- Whether the time is checked, if that is settled. -/
def checks? : Change → Option Bool
  | .withTimeCheck enabled => some enabled
  | _ => none

/-- Whether the change has to do with the thumbprint. -/
def concerns (t : Thumbprint) : Change → Bool
  | .trust u | .revoke u => u = t
  | _ => true

end Change

/-- The certificates that the list was last made from; none if it started out empty. -/
def madeFrom (changes : List Change) : List Certificate :=
  (changes.filterMap Change.made?).getLast?.getD []

/-- The changes since the list was last made. -/
def since (changes : List Change) : List Change :=
  changes.rtakeWhile fun change => change.made?.isNone

/-- Whether the last change since then that named the thumbprint trusts it, or the list was made
from a certificate with it and no change named it. -/
def IsListed (changes : List Change) (t : Thumbprint) : Prop :=
  match ((since changes).filterMap (·.names? t)).getLast? with
  | some trusted => trusted = true
  | none => ∃ c ∈ madeFrom changes, c.thumbprint = t

/-- Whether the time is checked, by the last change since then that settled it. -/
def ChecksTime (changes : List Change) : Prop :=
  ((since changes).filterMap Change.checks?).getLast? = some true

/-! ### One change more -/

variable {changes : List Change} {e : Change}

namespace Change

/-- What the change makes of whether the thumbprint is on the list. -/
def Lists (t : Thumbprint) (listed : Prop) : Change → Prop
  | .trust u => u = t ∨ listed
  | .revoke u => u ≠ t ∧ listed
  | .ofCertificates cs => ∃ c ∈ cs, c.thumbprint = t
  | .withTimeCheck _ => listed

/-- What the change makes of whether the time is checked. -/
def Checks (checked : Prop) : Change → Prop
  | .withTimeCheck enabled => enabled = true
  | .ofCertificates _ => False
  | _ => checked

theorem lists_of_foreign {listed : Prop} (foreign : e.concerns t = false) :
    e.Lists t listed ↔ listed := by
  cases e with
  | trust u | revoke u =>
    have other : u ≠ t := of_decide_eq_false foreign
    simp [Lists, other]
  | ofCertificates | withTimeCheck => cases foreign

theorem checks_of_foreign {checked : Prop} (foreign : e.concerns t = false) :
    e.Checks checked ↔ checked := by
  cases e with
  | trust | revoke => exact Iff.rfl
  | ofCertificates | withTimeCheck => cases foreign

end Change

theorem mem_step : t ∈ (l.step e).trusted ↔ e.Lists t (t ∈ l.trusted) := by
  cases e with
  | trust u => exact mem_insert.trans (or_congr_left eq_comm)
  | revoke u =>
    show t ∈ l.trusted.filter (· != u) ↔ u ≠ t ∧ t ∈ l.trusted
    rw [List.mem_filter, bne_iff_ne, ne_comm, and_comm]
  | ofCertificates cs => exact mem_ofCertificates
  | withTimeCheck enabled => exact Iff.rfl

theorem checkTime_step : (l.step e).checkTime = true ↔ e.Checks (l.checkTime = true) := by
  cases e with
  | trust | revoke | withTimeCheck => exact Iff.rfl
  | ofCertificates cs => simp [step, Change.Checks, checkTime_ofCertificates]

theorem isOrdered_step (ordered : IsOrdered l.trusted) : IsOrdered (l.step e).trusted := by
  cases e with
  | trust => exact isOrdered_insert ordered
  | revoke => exact ordered.filter _
  | ofCertificates cs => exact isOrdered_ofCertificates cs
  | withTimeCheck => exact ordered

theorem since_concat (lasting : e.made? = none) :
    since (changes ++ [e]) = since changes ++ [e] :=
  List.rtakeWhile_concat_pos _ _ _ (by rw [lasting]; rfl)

theorem madeFrom_concat (lasting : e.made? = none) :
    madeFrom (changes ++ [e]) = madeFrom changes := by
  rw [madeFrom, List.filterMap_append, List.filterMap_cons_none lasting, List.filterMap_nil,
    List.append_nil, madeFrom]

theorem since_made (cs : List Certificate) : since (changes ++ [.ofCertificates cs]) = [] :=
  List.rtakeWhile_concat_neg _ _ _ (by simp [Change.made?])

theorem madeFrom_made (cs : List Certificate) :
    madeFrom (changes ++ [.ofCertificates cs]) = cs := by
  simp [madeFrom, Change.made?]

theorem isListed_concat : IsListed (changes ++ [e]) t ↔ e.Lists t (IsListed changes t) := by
  cases e with
  | trust u =>
    rw [IsListed, since_concat rfl, madeFrom_concat rfl, List.filterMap_append]
    by_cases same : u = t
    · simp [Change.names?, Change.Lists, same]
    · simp [Change.names?, Change.Lists, same, IsListed]
  | revoke u =>
    rw [IsListed, since_concat rfl, madeFrom_concat rfl, List.filterMap_append]
    by_cases same : u = t
    · simp [Change.names?, Change.Lists, same]
    · simp [Change.names?, Change.Lists, same, IsListed]
  | ofCertificates cs =>
    rw [IsListed, since_made, madeFrom_made]
    rfl
  | withTimeCheck enabled =>
    rw [IsListed, since_concat rfl, madeFrom_concat rfl, List.filterMap_append]
    simp [Change.names?, Change.Lists, IsListed]

theorem checksTime_concat : ChecksTime (changes ++ [e]) ↔ e.Checks (ChecksTime changes) := by
  cases e with
  | trust | revoke | withTimeCheck =>
    rw [ChecksTime, since_concat rfl, List.filterMap_append]
    simp [Change.checks?, Change.Checks, ChecksTime]
  | ofCertificates cs =>
    rw [ChecksTime, since_made]
    simp [Change.Checks]

/-! ### Runs -/

theorem run_concat (changes : List Change) (e : Change) :
    run (changes ++ [e]) = (run changes).step e := by
  rw [run, List.foldl_append]
  rfl

theorem mem_run : t ∈ (run changes).trusted ↔ IsListed changes t := by
  induction changes using List.reverseRecOn with
  | nil => simp [run, IsListed, since, madeFrom]
  | append_singleton changes e ih =>
    rw [run_concat, mem_step, isListed_concat, ih]

theorem checkTime_run : (run changes).checkTime = true ↔ ChecksTime changes := by
  induction changes using List.reverseRecOn with
  | nil => simp [run, ChecksTime, since]
  | append_singleton changes e ih =>
    rw [run_concat, checkTime_step, checksTime_concat, ih]

theorem isOrdered_run (changes : List Change) : IsOrdered (run changes).trusted := by
  induction changes using List.reverseRecOn with
  | nil => exact .nil
  | append_singleton changes e ih =>
    rw [run_concat]
    exact isOrdered_step ih

/-- Changes that have nothing to do with a thumbprint may be left out. -/
theorem isListed_filter :
    IsListed (changes.filter (·.concerns t)) t ↔ IsListed changes t := by
  induction changes using List.reverseRecOn with
  | nil => exact Iff.rfl
  | append_singleton changes e ih =>
    rw [isListed_concat, List.filter_append]
    cases concerned : e.concerns t with
    | false => simp [concerned, ih, Change.lists_of_foreign concerned]
    | true => simp [concerned, isListed_concat, ih]

theorem checksTime_filter :
    ChecksTime (changes.filter (·.concerns t)) ↔ ChecksTime changes := by
  induction changes using List.reverseRecOn with
  | nil => exact Iff.rfl
  | append_singleton changes e ih =>
    rw [checksTime_concat, List.filter_append]
    cases concerned : e.concerns t with
    | false => simp [concerned, ih, Change.checks_of_foreign concerned]
    | true => simp [concerned, checksTime_concat, ih]

/-! ### Verdicts -/

theorem validate_of_listed (listed : c.thumbprint ∈ l.trusted) :
    l.validate now c = if l.checkTime = true then c.checkValidity now else .ok () := by
  rw [validate, if_pos (List.contains_iff_mem.mpr listed)]

theorem validate_of_unlisted (unlisted : c.thumbprint ∉ l.trusted) :
    l.validate now c = .error (.untrusted c.subject c.thumbprint.text) := by
  rw [validate, if_neg (mt List.contains_iff_mem.mp unlisted)]

theorem validate_eq_ok_iff : l.validate now c = .ok () ↔ c.thumbprint ∈ l.trusted ∧
    (l.checkTime = true → c.notBefore ≤ now ∧ now ≤ c.notAfter) := by
  rw [← Certificate.checkValidity_eq_ok_iff]
  by_cases listed : c.thumbprint ∈ l.trusted
  · rw [validate_of_listed listed]
    cases l.checkTime <;> simp [listed]
  · simp [validate_of_unlisted listed, listed]

/-- A certificate that is not listed is refused for this, whatever the time. -/
theorem of_validate_eq_error {fault : Fault} (refused : l.validate now c = .error fault) :
    fault.kind = .certificateUntrusted ∧ c.thumbprint ∉ l.trusted ∨
      fault.kind = .certificateTimeInvalid ∧ c.thumbprint ∈ l.trusted ∧ l.checkTime = true ∧
        ¬ (c.notBefore ≤ now ∧ now ≤ c.notAfter) := by
  by_cases listed : c.thumbprint ∈ l.trusted
  · rw [validate_of_listed listed] at refused
    split at refused
    · rename_i checked
      have outside := Certificate.exists_checkValidity_error.mp ⟨fault, refused⟩
      exact .inr ⟨Certificate.kind_of_checkValidity refused, listed, checked, outside⟩
    · cases refused
  · rw [validate_of_unlisted listed] at refused
    cases refused
    exact .inl ⟨rfl, listed⟩

theorem validate_congr {k : TrustList} (trusted : c.thumbprint ∈ k.trusted ↔ c.thumbprint ∈ l.trusted)
    (checks : k.checkTime = true ↔ l.checkTime = true) : k.validate now c = l.validate now c := by
  by_cases listed : c.thumbprint ∈ l.trusted
  · simp only [validate_of_listed (trusted.mpr listed), validate_of_listed listed, checks]
  · rw [validate_of_unlisted (mt trusted.mp listed), validate_of_unlisted listed]

theorem revoke_ne_iff : (l.revoke t).1 ≠ l ↔ t ∈ l.trusted := by
  constructor
  · intro changed
    by_contra absent
    have kept : l.trusted.filter (· != t) = l.trusted :=
      List.filter_eq_self.mpr fun u member => bne_iff_ne.mpr fun same => absent (same ▸ member)
    exact changed (congrArg (TrustList.mk · l.checkTime) kept)
  · intro listed same
    rw [← same] at listed
    exact absurd rfl (bne_iff_ne.mp (List.mem_filter.mp listed).2)

/-- A certificate is accepted when it is listed and, where the time is checked, valid at that time. One
that is not listed is refused as untrusted, and only one that is listed for its time. A revocation
tells whether it changed the list, which counts every thumbprint once, and what happens to other
thumbprints has no part in the verdict. -/
theorem verdict_of_changes (changes : List Change) :
    let l := run changes
    (∀ c now,
      (l.validate now c = .ok () ↔ IsListed changes c.thumbprint ∧
        (ChecksTime changes → c.notBefore ≤ now ∧ now ≤ c.notAfter)) ∧
      (¬ IsListed changes c.thumbprint →
        l.validate now c = .error (.untrusted c.subject c.thumbprint.text)) ∧
      (∀ fault, l.validate now c = .error fault →
        fault.kind = .certificateUntrusted ∧ ¬ IsListed changes c.thumbprint ∨
        fault.kind = .certificateTimeInvalid ∧ IsListed changes c.thumbprint ∧
          ChecksTime changes ∧ ¬ (c.notBefore ≤ now ∧ now ≤ c.notAfter)) ∧
      (run (changes.filter (·.concerns c.thumbprint))).validate now c = l.validate now c) ∧
    (∀ t, ((l.revoke t).2 = true ↔ (l.revoke t).1 ≠ l) ∧
      ((l.revoke t).2 = true ↔ IsListed changes t)) ∧
    ∃ listed : List Thumbprint, listed.Nodup ∧ (∀ t, t ∈ listed ↔ IsListed changes t) ∧
      l.size = listed.length := by
  intro l
  have revoked (t : Thumbprint) : (l.revoke t).2 = true ↔ t ∈ l.trusted := List.contains_iff_mem
  refine ⟨fun c now => ⟨?_, ?_, ?_, ?_⟩, fun t => ⟨?_, ?_⟩, l.trusted, ?_, fun _ => mem_run, rfl⟩
  · rw [validate_eq_ok_iff, mem_run, checkTime_run]
  · intro unlisted
    exact validate_of_unlisted (mt mem_run.mp unlisted)
  · intro fault refused
    rw [← mem_run, ← checkTime_run]
    exact of_validate_eq_error refused
  · apply validate_congr
    · rw [mem_run, mem_run, isListed_filter]
    · rw [checkTime_run, checkTime_run, checksTime_filter]
  · rw [revoked, revoke_ne_iff]
  · rw [revoked, mem_run]
  · exact (isOrdered_run changes).nodup

end TrustList

end OpcUa
