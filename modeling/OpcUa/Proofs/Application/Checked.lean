import OpcUa.Application.Setup
import OpcUa.Proofs.Fallible
import Mathlib.Data.List.Forall2

/-!
# Checked configurations

A configuration is checked first, and what it names is then read once more, where entries that
cannot be read are passed over. Both readings agree, so nothing is passed over once the check has
succeeded, and the check fails whatever the files hold.
-/

namespace OpcUa

theorem forall₂_filterMap {α β : Type} (read : α → Option β) {xs : List α}
    (all : ∀ x ∈ xs, ∃ y, read x = some y) :
    List.Forall₂ (fun x y => read x = some y) xs (xs.filterMap read) := by
  induction xs with
  | nil => exact .nil
  | cons x xs ih =>
    obtain ⟨y, found⟩ := all x List.mem_cons_self
    rw [List.filterMap_cons_some found]
    exact .cons found (ih fun z member => all z (List.mem_cons_of_mem _ member))

namespace UserTokenPolicy

variable {id : String} {p : UserTokenPolicy}

/-- Whether a well-known policy goes by that id. -/
def IsKnown (id : String) : Prop :=
  ∃ p ∈ wellKnown, p.policyId = some id

theorem of_wellKnown? (found : wellKnown? id = some p) :
    p ∈ wellKnown ∧ p.policyId = some id := by
  have named := List.find?_some (p := fun p : UserTokenPolicy => p.policyId == some id) found
  exact ⟨List.mem_of_find?_eq_some found, beq_iff_eq.mp named⟩

theorem exists_wellKnown? : (∃ p, wellKnown? id = some p) ↔ IsKnown id := by
  rw [← Option.isSome_iff_exists, wellKnown?, List.find?_isSome]
  simp only [IsKnown, beq_iff_eq]

end UserTokenPolicy

theorem TransportConfig.check_eq_ok_iff {c : TransportConfig} {kind : TransportKind} :
    c.check kind = .ok () ↔ ∀ id ∈ c.userTokenPolicies, UserTokenPolicy.IsKnown id := by
  have known : c.unknownPolicy? = none ↔
      ∀ id ∈ c.userTokenPolicies, UserTokenPolicy.IsKnown id := by
    simp only [unknownPolicy?, List.find?_eq_none, Bool.not_eq_true, Option.isNone_eq_false_iff,
      Option.isSome_iff_exists, UserTokenPolicy.exists_wellKnown?]
  rw [← known, check]
  cases c.unknownPolicy? <;> simp

namespace ApplicationConfig

variable {c : ApplicationConfig}

/-- Whether all locales can be read and the token policies of both transports are well known. -/
structure IsReadable (c : ApplicationConfig) : Prop where
  locales : ∀ text ∈ c.locales, ∃ l, Locale.ofText text = .ok l
  policies : ∀ kind, ∀ id ∈ (c.transport kind).userTokenPolicies, UserTokenPolicy.IsKnown id

theorem checkLocale_eq_ok_iff {text : String} :
    checkLocale text = .ok () ↔ ∃ l, Locale.ofText text = .ok l := by
  unfold checkLocale
  cases Locale.ofText text <;> simp

theorem check_eq_ok_iff : c.check = .ok () ↔ c.IsReadable := by
  constructor
  · intro checked
    obtain ⟨⟨⟩, locales, checked⟩ := exists_of_bind checked
    obtain ⟨⟨⟩, tcp, https⟩ := exists_of_bind checked
    refine ⟨fun text named => checkLocale_eq_ok_iff.mp (forM_eq_ok_iff.mp locales text named), ?_⟩
    rintro (_ | _)
    · exact TransportConfig.check_eq_ok_iff.mp tcp
    · exact TransportConfig.check_eq_ok_iff.mp https
  · rintro ⟨locales, policies⟩
    have readable : c.locales.forM checkLocale = .ok () :=
      forM_eq_ok_iff.mpr fun text named => checkLocale_eq_ok_iff.mpr (locales text named)
    have tcp : c.tcp.check .opcTcp = .ok () := TransportConfig.check_eq_ok_iff.mpr (policies .opcTcp)
    have https : c.https.check .https = .ok () :=
      TransportConfig.check_eq_ok_iff.mpr (policies .https)
    rw [check, readable, tcp, https]
    rfl

end ApplicationConfig

namespace Application

variable {a : Application} {c : ApplicationConfig} {around : Surroundings}

/-- What has been set up is what the configuration was assembled to, but for an identity. -/
theorem assembled_of_ofConfig (made : ofConfig c around = .ok a) :
    c.IsReadable ∧ ∃ tcp https identities,
      c.tcp.transportSecurity .opcTcp around = .ok tcp ∧
      c.https.transportSecurity .https around = .ok https ∧
      a = { assemble c around tcp https with identities } := by
  unfold ofConfig at made
  split at made
  · cases made
  · rename_i checked
    refine ⟨ApplicationConfig.check_eq_ok_iff.mp checked, ?_⟩
    have read : ofChecked c around = .ok a := by
      cases read : ofChecked c around <;> rw [read] at made <;> cases made
      rfl
    obtain ⟨tcp, madeTcp, read⟩ := exists_of_bind read
    obtain ⟨https, madeHttps, assembled⟩ := exists_of_bind read
    dsimp only at assembled
    split at assembled
    · cases assembled
      exact ⟨tcp, https, [], madeTcp, madeHttps, rfl⟩
    · obtain ⟨identity, -, added⟩ := exists_of_bind assembled
      cases added
      exact ⟨tcp, https, [identity], madeTcp, madeHttps, rfl⟩

/-- The fault of a configuration is told before any fault of its files. -/
theorem exists_config_fault_iff :
    (∃ fault, ofConfig c around = .error (.config fault)) ↔ ¬ c.IsReadable := by
  rw [← ApplicationConfig.check_eq_ok_iff]
  unfold ofConfig
  cases c.check with
  | error fault => simp
  | ok =>
    cases ofChecked c around <;> simp [Except.mapError]

theorem locales_assemble (readable : c.IsReadable) (around : Surroundings)
    (tcp https : TransportSecurity) :
    List.Forall₂ (fun text l => Locale.ofText text = .ok l) c.locales
      (assemble c around tcp https).locales := by
  have each (text : String) (l : Locale) :
      (Locale.ofText text).toOption = some l ↔ Locale.ofText text = .ok l := by
    cases Locale.ofText text <;> simp [Except.toOption]
  have read := forall₂_filterMap (fun text => (Locale.ofText text).toOption)
    fun text named => (readable.locales text named).imp fun _ => (each text _).mpr
  exact read.imp fun text l => (each text l).mp

theorem settings_assemble (c : ApplicationConfig) (around : Surroundings)
    (tcp https : TransportSecurity) (kind : TransportKind) :
    (assemble c around tcp https).settings kind =
      .ofConfig around.hostName kind (c.transport kind) := by
  cases kind <;> rfl

theorem tokenPolicies_ofConfig (host : String) (kind : TransportKind) {t : TransportConfig}
    (known : ∀ id ∈ t.userTokenPolicies, UserTokenPolicy.IsKnown id) :
    List.Forall₂ (fun id p => p ∈ UserTokenPolicy.wellKnown ∧ p.policyId = some id)
      t.userTokenPolicies (TransportSettings.ofConfig host kind t).tokenPolicies :=
  (forall₂_filterMap UserTokenPolicy.wellKnown? fun id named =>
    UserTokenPolicy.exists_wellKnown?.mpr (known id named)).imp
      fun _ _ => UserTokenPolicy.of_wellKnown?

/-- An application that has been set up has a locale for every one that is configured and, for every
transport, a token policy for every id and the offers, all in their order. A configuration is at
fault exactly when a locale cannot be read or an id is no well-known policy's, whatever the files
hold. -/
theorem entries_of_config (c : ApplicationConfig) (around : Surroundings) :
    (∀ a, ofConfig c around = .ok a →
      List.Forall₂ (fun text id => ∃ l, Locale.ofText text = .ok l ∧ id = l.id)
        c.locales a.localeIds ∧
      ∀ kind,
        List.Forall₂ (fun id p => p ∈ UserTokenPolicy.wellKnown ∧ p.policyId = some id)
          (c.transport kind).userTokenPolicies (a.serverContext kind).tokenPolicies ∧
        (a.serverContext kind).offers = (c.transport kind).security) ∧
    ((∃ fault, ofConfig c around = .error (.config fault)) ↔
      (∃ text ∈ c.locales, ∀ l, Locale.ofText text ≠ .ok l) ∨
      ∃ kind, ∃ id ∈ (c.transport kind).userTokenPolicies,
        ∀ p ∈ UserTokenPolicy.wellKnown, p.policyId ≠ some id) := by
  constructor
  · intro a made
    obtain ⟨readable, tcp, https, identities, -, -, rfl⟩ := assembled_of_ofConfig made
    constructor
    · rw [localeIds, List.forall₂_map_right_iff]
      exact (locales_assemble readable around tcp https).imp fun _ l read => ⟨l, read, rfl⟩
    · intro kind
      have settled := settings_assemble c around tcp https kind
      have policies := tokenPolicies_ofConfig around.hostName kind (readable.policies kind)
      rw [← settled] at policies
      exact ⟨policies, congrArg TransportSettings.offers settled⟩
  · rw [exists_config_fault_iff]
    constructor
    · intro unreadable
      by_contra sound
      simp only [not_or, not_exists, not_and, not_forall, not_not] at sound
      obtain ⟨locales, policies⟩ := sound
      refine unreadable ⟨fun text named => ?_, fun kind id named => ?_⟩
      · exact locales text named
      · obtain ⟨p, wellKnown, same⟩ := policies kind id named
        exact ⟨p, wellKnown, same⟩
    · rintro (⟨text, named, unread⟩ | ⟨kind, id, named, unknown⟩) readable
      · obtain ⟨l, read⟩ := readable.locales text named
        exact unread l read
      · obtain ⟨p, wellKnown, same⟩ := readable.policies kind id named
        exact unknown p wellKnown same

end Application

end OpcUa
