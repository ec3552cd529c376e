import OpcUa.Proofs.Security.TokenPolicies

/-!
# Choice of a token policy

A client takes the first entry that it can use. What it has disabled counts no more than what is
unknown or absent, so all of that may as well be left out. Whatever it disables besides, the choice
only moves on to later entries.
-/

namespace OpcUa

namespace UserTokenPolicy

variable {p : UserTokenPolicy} {off more : List SecurityPolicy}

instance : Decidable (p.IsUsable off) :=
  decidable_of_iff (∃ policy ∈ SecurityPolicy.all, p.Names policy ∧ policy ∉ off)
    ⟨fun ⟨policy, _, usable⟩ => ⟨policy, usable⟩,
      fun ⟨policy, usable⟩ => ⟨policy, policy.mem_all, usable⟩⟩

theorem isUsable_congr (same : ∀ policy, policy ∈ off ↔ policy ∈ more) :
    p.IsUsable off ↔ p.IsUsable more := by
  simp only [IsUsable, same]

theorem IsUsable.of_subset (usable : p.IsUsable more) (kept : off ⊆ more) : p.IsUsable off := by
  obtain ⟨policy, named, enabled⟩ := usable
  exact ⟨policy, named, fun disabled => enabled (kept disabled)⟩

end UserTokenPolicy

namespace EndpointDescription

variable {e : EndpointDescription} {off more : List SecurityPolicy} {type : UserTokenType}
  {i j : Nat} {p q : UserTokenPolicy}

/-- The entry at a place is the first of a type that is bound to a policy that is not off. -/
structure IsFirst (e : EndpointDescription) (off : List SecurityPolicy) (type : UserTokenType)
    (i : Nat) (p : UserTokenPolicy) : Prop where
  present : e.userIdentityTokens[i]? = some (some p)
  accepted : p.IsUsable off ∧ p.tokenType = type
  first : ∀ j < i, ∀ q, e.userIdentityTokens[j]? = some (some q) →
    ¬ (q.IsUsable off ∧ q.tokenType = type)

theorem IsFirst.le_of_subset (before : e.IsFirst off type i p) (after : e.IsFirst more type j q)
    (kept : off ⊆ more) : i ≤ j := by
  apply Nat.le_of_not_lt
  intro earlier
  have usable := after.accepted.1.of_subset kept
  exact before.first j earlier q after.present ⟨usable, after.accepted.2⟩

theorem IsFirst.congr (before : e.IsFirst off type i p)
    (same : ∀ policy, policy ∈ off ↔ policy ∈ more) : e.IsFirst more type i p where
  present := before.present
  accepted := before.accepted.imp_left (UserTokenPolicy.isUsable_congr same).mp
  first j earlier q present accepted :=
    before.first j earlier q present
      (accepted.imp_left (UserTokenPolicy.isUsable_congr same).mpr)

/-- Without the entries that cannot be used. -/
def leavingOut (e : EndpointDescription) (off : List SecurityPolicy) : EndpointDescription :=
  { e with userIdentityTokens :=
      e.userIdentityTokens.filter fun entry => ∀ p ∈ entry, p.IsUsable off }

/-- With absent entries in place of those that cannot be used. -/
def blanking (e : EndpointDescription) (off : List SecurityPolicy) : EndpointDescription :=
  { e with userIdentityTokens :=
      e.userIdentityTokens.map fun entry => entry.filter fun p => p.IsUsable off }

theorem tokenPolicies_leavingOut (e : EndpointDescription) (off : List SecurityPolicy) :
    (e.leavingOut off).tokenPolicies = e.tokenPolicies.filter fun p => p.IsUsable off := by
  unfold leavingOut tokenPolicies
  rw [List.filterMap_filter, List.filter_filterMap]
  congr 1
  funext entry
  cases entry <;> simp [Option.filter]

theorem tokenPolicies_blanking (e : EndpointDescription) (off : List SecurityPolicy) :
    (e.blanking off).tokenPolicies = e.tokenPolicies.filter fun p => p.IsUsable off := by
  unfold blanking tokenPolicies
  rw [List.filterMap_map, List.filter_filterMap]
  rfl

end EndpointDescription

namespace Negotiator

variable {n m : Negotiator} {e other : EndpointDescription} {type : UserTokenType}
  {p q : UserTokenPolicy}

theorem mem_disabled_foldl (n : Negotiator) (later : List SecurityPolicy)
    (policy : SecurityPolicy) :
    policy ∈ (later.foldl disable n).disabled ↔ policy ∈ n.disabled ++ later := by
  induction later generalizing n with
  | nil => simp
  | cons next later ih =>
    rw [List.foldl_cons, ih]
    simp [disable, or_left_comm]

theorem policyFor?_eq_some_iff :
    n.policyFor? e type = some p ↔ ∃ i, e.IsFirst n.disabled type i p := by
  -- Absent entries count in the places, so the scan is taken back to the entries themselves.
  have any_iff (entry : Option UserTokenPolicy) :
      (entry.any fun q => n.canUse q && q.tokenType == type) = true ↔
        ∃ q, entry = some q ∧ q.IsUsable n.disabled ∧ q.tokenType = type := by
    cases entry <;> simp [canUse_iff]
  rw [policyFor?, EndpointDescription.tokenPolicies, List.find?_filterMap, Option.bind_eq_some_iff]
  constructor
  · rintro ⟨entry, found, rfl⟩
    obtain ⟨accepted, i, inside, here, before⟩ := List.find?_eq_some_iff_getElem.mp found
    obtain ⟨_, ⟨⟩, accepted⟩ := (any_iff _).mp accepted
    refine ⟨i, List.getElem?_eq_some_iff.mpr ⟨inside, here⟩, accepted, ?_⟩
    intro j earlier q there accepted
    obtain ⟨_, there⟩ := List.getElem?_eq_some_iff.mp there
    have passed := before j earlier
    rw [there, (any_iff (some q)).mpr ⟨q, rfl, accepted⟩] at passed
    cases passed
  · rintro ⟨i, present, accepted, first⟩
    obtain ⟨inside, here⟩ := List.getElem?_eq_some_iff.mp present
    refine ⟨some p, List.find?_eq_some_iff_getElem.mpr
      ⟨(any_iff _).mpr ⟨p, rfl, accepted⟩, i, inside, here, ?_⟩, rfl⟩
    intro j earlier
    rw [Bool.not_eq_true', Bool.eq_false_iff]
    intro accepted
    obtain ⟨q, there, accepted⟩ := (any_iff _).mp accepted
    exact first j earlier q (List.getElem?_eq_some_iff.mpr ⟨_, there⟩) accepted

theorem exists_policyFor? (found : m.policyFor? e type = some q) (kept : n.disabled ⊆ m.disabled) :
    ∃ p, n.policyFor? e type = some p := by
  obtain ⟨present, usable, typed⟩ := of_policyFor? found
  apply Option.isSome_iff_exists.mp
  apply List.find?_isSome.mpr
  exact ⟨q, present, by simp [canUse_iff.mpr (usable.of_subset kept), typed]⟩

theorem policyFor?_of_filter
    (left : other.tokenPolicies = e.tokenPolicies.filter fun p => p.IsUsable n.disabled) :
    ({} : Negotiator).policyFor? other type = n.policyFor? e type := by
  unfold policyFor?
  rw [left, List.find?_filter]
  congr 1
  funext p
  apply Bool.eq_iff_iff.mpr
  have free : p.IsUsable n.disabled → p.tokenType = type → p.IsUsable [] :=
    fun usable _ => usable.of_subset (List.nil_subset _)
  simpa [canUse_iff] using free

/-- What a client takes is the first entry of the type that is bound to a known policy, but for those
that it has disabled, at once or one after another. The same is taken where nothing is disabled and
the entries that cannot be used are left out or blanked. Who has disabled more finds something only
where others do, and no earlier entry. -/
theorem choice_of_entries (given later : List SecurityPolicy) (e : EndpointDescription)
    (type : UserTokenType) :
    let n : Negotiator := later.foldl disable ⟨given⟩
    let off := given ++ later
    (∀ p, n.policyFor? e type = some p ↔ ∃ i, e.IsFirst off type i p) ∧
    ({} : Negotiator).policyFor? (e.leavingOut off) type = n.policyFor? e type ∧
    ({} : Negotiator).policyFor? (e.blanking off) type = n.policyFor? e type ∧
    ∀ (m : Negotiator) (q : UserTokenPolicy), off ⊆ m.disabled → m.policyFor? e type = some q →
      ∃ p i j, n.policyFor? e type = some p ∧ e.IsFirst off type i p ∧
        e.IsFirst m.disabled type j q ∧ i ≤ j := by
  intro n off
  have disabled_iff (policy : SecurityPolicy) : policy ∈ n.disabled ↔ policy ∈ off :=
    mem_disabled_foldl ⟨given⟩ later policy
  have usable_iff (p : UserTokenPolicy) : p.IsUsable off ↔ p.IsUsable n.disabled :=
    UserTokenPolicy.isUsable_congr fun policy => (disabled_iff policy).symm
  have chosen_iff (p : UserTokenPolicy) :
      n.policyFor? e type = some p ↔ ∃ i, e.IsFirst off type i p := by
    rw [policyFor?_eq_some_iff]
    constructor
    · rintro ⟨i, first⟩
      exact ⟨i, first.congr disabled_iff⟩
    · rintro ⟨i, first⟩
      exact ⟨i, first.congr fun policy => (disabled_iff policy).symm⟩
  refine ⟨chosen_iff, policyFor?_of_filter ?_, policyFor?_of_filter ?_, ?_⟩
  · rw [EndpointDescription.tokenPolicies_leavingOut]
    simp only [usable_iff]
  · rw [EndpointDescription.tokenPolicies_blanking]
    simp only [usable_iff]
  · intro m q wider found
    have narrower : n.disabled ⊆ m.disabled := fun policy disabled =>
      wider ((disabled_iff policy).mp disabled)
    obtain ⟨j, after⟩ := policyFor?_eq_some_iff.mp found
    obtain ⟨p, chosen⟩ := exists_policyFor? found narrower
    obtain ⟨i, before⟩ := (chosen_iff p).mp chosen
    exact ⟨p, i, j, chosen, before, after, before.le_of_subset after wider⟩

example : (Negotiator.mk [.basic256]).policyFor?
    { userIdentityTokens := [some (.secured "old" .userName .basic256), none,
        some (.secured "new" .userName .basic256Sha256)] } .userName =
      some (.secured "new" .userName .basic256Sha256) := by
  decide

end Negotiator

end OpcUa
