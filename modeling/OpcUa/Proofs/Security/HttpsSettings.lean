import OpcUa.Proofs.Security.History

/-!
# Settings of HTTPS

A configuration for TCP is refused the settings of HTTPS. It gets them all the same from a
configuration for HTTPS that is laid over it, and in no other way.
-/

namespace OpcUa.TransportSecurity

variable {α : Type}

/-- A setting that a change gives to a configuration for HTTPS and to no other. -/
structure IsHttpsSetting (setting : TransportSecurity → Option α) (given? : Change → Option α) :
    Prop where
  unset (kind : TransportKind) : setting { kind } = none
  changed {s after : TransportSecurity} {c : Change} (done : s.change c = .ok after) :
    setting after = (given? c).or (setting s)
  reserved {s after : TransportSecurity} {c : Change} (done : s.change c = .ok after) :
    given? c = none ∨ s.kind = .https
  refused {s : TransportSecurity} {c : Change} {fault : Fault}
    (failed : s.change c = .error fault) : given? c = none ∨ s.kind ≠ .https
  overlaid (s upper : TransportSecurity) :
    setting (s.overlay upper) = (setting upper).or (setting s)

theorem hostnameVerification_isHttpsSetting :
    IsHttpsSetting hostnameVerification Change.mode? where
  unset _ := rfl
  changed done := (change_eq_ok done).2.2.1
  reserved done := (change_eq_ok done).2.2.2.2.imp_left And.left
  refused {s c fault} failed := by
    cases c with
    | setHostnameVerification mode =>
      exact .inr fun https => nomatch (if_pos https).symm.trans failed
    | _ => exact .inl rfl
  overlaid s upper := (isOverlay s upper).hostnameVerification

theorem httpsPolicies_isHttpsSetting : IsHttpsSetting httpsPolicies Change.policies? where
  unset _ := rfl
  changed done := (change_eq_ok done).2.2.2.1
  reserved done := (change_eq_ok done).2.2.2.2.imp_left And.right
  refused {s c fault} failed := by
    cases c with
    | setHttpsPolicies policies =>
      exact .inr fun https => nomatch (if_pos https).symm.trans failed
    | _ => exact .inl rfl
  overlaid s upper := (isOverlay s upper).httpsPolicies

namespace History

/-- The settings that configurations for HTTPS are given in a history, in their order. -/
def given (given? : Change → Option α) : History → List α
  | .new _ => []
  | .change before c =>
    before.given given? ++ if before.result.kind = .https then (given? c).toList else []
  | .overlay below upper => below.given given? ++ upper.given given?

variable {setting : TransportSecurity → Option α} {given? : Change → Option α}

/-- A setting of HTTPS is the one that was given last, to the configuration or to one laid over
it. -/
theorem setting_result (isSetting : IsHttpsSetting setting given?) (h : History) :
    setting h.result = (h.given given?).getLast? := by
  induction h with
  | new kind => exact isSetting.unset kind
  | change before c ih =>
    rw [given, result, List.getLast?_append, ← ih]
    split
    · rename_i after done
      rw [isSetting.changed done]
      rcases isSetting.reserved done with plain | https
      · rw [plain]
        split <;> rfl
      · rw [if_pos https]
        cases given? c <;> rfl
    · rename_i failed
      rcases isSetting.refused failed with plain | other
      · rw [plain]
        split <;> rfl
      · rw [if_neg other]
        rfl
  | overlay below upper ihBelow ihUpper =>
    rw [given, result, isSetting.overlaid, ihBelow, ihUpper, List.getLast?_append]

theorem given_eq_nil_iff (h : History) :
    h.given given? = [] ↔ ∀ layer ∈ h :: h.laidOver,
      layer.result.kind = .https → ∀ c ∈ layer.changes, given? c = none := by
  induction h with
  | new kind => simp [given, laidOver, changes]
  | change before c ih =>
    rw [given, List.append_eq_nil_iff, ih, laidOver, List.forall_mem_cons, List.forall_mem_cons,
      kind_result_change, changes]
    by_cases https : before.result.kind = .https
    · simp [https, or_imp, forall_and, and_assoc, and_comm]
    · simp [https]
  | overlay below upper ihBelow ihUpper =>
    rw [given, List.append_eq_nil_iff, ihBelow, ihUpper, laidOver]
    simp [or_imp, forall_and, and_assoc, kind_result_overlay, changes]

/-- A configuration for TCP has a setting of HTTPS just when one for HTTPS that was given it lies
over it, at once or on what lies there; it is then the last that any of these was given. -/
theorem httpsSettings_of_tcp {h : History} (tcp : h.result.kind = .opcTcp) :
    (h.result.hostnameVerification = none ↔
      ∀ upper ∈ h.laidOver, upper.result.kind = .https → ∀ c ∈ upper.changes, c.mode? = none) ∧
    (h.result.httpsPolicies = none ↔
      ∀ upper ∈ h.laidOver, upper.result.kind = .https → ∀ c ∈ upper.changes, c.policies? = none) ∧
    h.result.hostnameVerification = (h.given Change.mode?).getLast? ∧
    h.result.httpsPolicies = (h.given Change.policies?).getLast? := by
  have itself : h.result.kind ≠ .https := by
    rw [tcp]
    decide
  have unset_iff {α : Type} {setting : TransportSecurity → Option α} {given? : Change → Option α}
      (isSetting : IsHttpsSetting setting given?) :
      setting h.result = none ↔ ∀ upper ∈ h.laidOver,
        upper.result.kind = .https → ∀ c ∈ upper.changes, given? c = none := by
    rw [setting_result isSetting, List.getLast?_eq_none_iff, given_eq_nil_iff, List.forall_mem_cons]
    exact and_iff_right fun https => absurd https itself
  exact ⟨unset_iff hostnameVerification_isHttpsSetting, unset_iff httpsPolicies_isHttpsSetting,
    setting_result hostnameVerification_isHttpsSetting h,
    setting_result httpsPolicies_isHttpsSetting h⟩

/-- A configuration for HTTPS in which every name is accepted. -/
def lenient : History :=
  .change (.new .https) (.setHostnameVerification .allowAll)

/-- Nothing of HTTPS is set where the configuration for HTTPS above has a name and a password alone;
the mode that was tried on the one for TCP was refused. -/
theorem httpsSettings_of_credentials :
    let upper : History := .change (.new .https) (.setCredentials ⟨"operator", "secret"⟩)
    let tcp : History := .change (.new .opcTcp) (.setHostnameVerification .allowAll)
    let h : History := .overlay (.overlay tcp (.new .opcTcp)) upper
    h.result.kind = .opcTcp ∧ h.result.username = some "operator" ∧
      h.result.hostnameVerification = none ∧ h.result.httpsPolicies = none := by
  intro upper tcp h
  have for_tcp : h.result.kind = .opcTcp := rfl
  obtain ⟨mode, policies, -, -⟩ := httpsSettings_of_tcp for_tcp
  have layers : h.laidOver = [.new .opcTcp, upper] := rfl
  refine ⟨for_tcp, rfl, mode.mpr ?_, policies.mpr ?_⟩ <;>
    simp [layers, upper, changes, Change.mode?, Change.policies?]

/-- A lenient configuration for HTTPS makes one for TCP lenient that it is laid over. -/
theorem not_httpsOnly_of_lenient :
    ¬ ∀ h : History, h.result.kind = .opcTcp →
      h.result.hostnameVerification = none ∧ h.result.currentHostnameVerification = .strict ∧
        h.result.httpsPolicies = none := by
  intro unset
  obtain ⟨free, -, -⟩ := unset (.overlay (.new .opcTcp) lenient) rfl
  cases free

end History

end OpcUa.TransportSecurity
