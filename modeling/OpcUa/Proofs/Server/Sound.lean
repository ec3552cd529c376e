import OpcUa.Proofs.Server.Runs

/-!
# Sound visits

What holds after any number of steps. Attempts have numbers of their own, servers come of one
attempt each, and whoever has been answered waits no longer. The cell turns from an attempt only
when it is closed or when the attempt has failed, and never turns back.
-/

namespace OpcUa.Visits

variable {σ : Type} {v w : Visits σ} {event : Event σ}

/-- Numbers grow, and only attempts that were started are built for or have ended. -/
structure Numbered (v : Visits σ) : Prop where
  below : ∀ attempt ∈ v.builds, attempt < v.cell.nextAttempt
  descending : v.builds.Pairwise (· > ·)
  ended : ∀ {attempt result}, v.result? attempt = some result → attempt ∈ v.builds
  building : ∀ {attempt}, v.cell.state = .building attempt → attempt ∈ v.builds

/-- Every server comes of one attempt. -/
structure Owned (v : Visits σ) : Prop where
  serving : ∀ {server}, v.cell.state = .serving server →
    ∃ attempt, v.result? attempt = some (.ok server)
  closed : ∀ {server}, server ∈ v.closed → ∃ attempt, v.result? attempt = some (.ok server)
  distinct : ∀ {first second server}, v.result? first = some (.ok server) →
    v.result? second = some (.ok server) → first = second

/-- Callers are known, and they are answered once. -/
structure Attended (v : Visits σ) : Prop where
  waiting : ∀ {caller attempt}, v.attempt? caller = some attempt → caller < v.callers
  answered : ∀ {caller ending}, v.answer? caller = some ending → caller < v.callers
  once : ∀ {caller attempt}, v.attempt? caller = some attempt → v.answer? caller = none

structure Sound (v : Visits σ) : Prop extends Numbered v, Owned v, Attended v

theorem Moves.numbered (moves : Moves v event w) (sound : Numbered v) : Numbered w := by
  obtain ⟨below, descending, ended, building⟩ := sound
  cases moves with
  | starts empty =>
    have started {attempt : Nat} (known : attempt ∈ v.builds) :
        attempt ∈ v.cell.nextAttempt :: v.builds := List.mem_cons_of_mem _ known
    refine ⟨?_, List.pairwise_cons.mpr ⟨below, descending⟩, fun found => started (ended found), ?_⟩
    · intro attempt member
      rcases List.mem_cons.mp member with rfl | known
      · exact Nat.lt_succ_self _
      · exact Nat.lt_succ_of_lt (below attempt known)
    · rintro attempt ⟨⟩
      exact List.mem_cons_self
  | @ends attempt result started running fresh =>
    refine ⟨below, descending, ?_, building⟩
    intro other given found
    rcases (Moves.ends started running fresh).result?_iff.mp found with known | same
    · exact ended known
    · cases same
      exact started
  | serves | joins | orphans | fails => exact ⟨below, descending, ended, building⟩
  | takes | clears | closes => exact ⟨below, descending, ended, by rintro attempt ⟨⟩⟩

theorem Moves.owned (moves : Moves v event w) (sound : Owned v) : Owned w := by
  obtain ⟨serving, closed, distinct⟩ := sound
  have stays {server : σ} : (∃ attempt, v.result? attempt = some (.ok server)) →
      ∃ attempt, w.result? attempt = some (.ok server) := .imp fun _ => moves.result?_stays
  cases moves with
  | ends started running fresh =>
    refine ⟨fun state => stays (serving state), fun member => stays (closed member), ?_⟩
    have moves := Moves.ends started running fresh
    intro first second server given repeated
    rcases moves.result?_iff.mp given with known | new <;>
      rcases moves.result?_iff.mp repeated with known' | new'
    · exact distinct known known'
    · cases new'
      exact (fresh server rfl first known).elim
    · cases new
      exact (fresh server rfl second known').elim
    · cases new
      cases new'
      rfl
  | takes waits ended wanted =>
    refine ⟨?_, closed, distinct⟩
    rintro server ⟨⟩
    exact ⟨_, ended⟩
  | orphans waits ended unwanted =>
    refine ⟨serving, ?_, distinct⟩
    intro server member
    rcases List.mem_cons.mp member with rfl | known
    · exact ⟨_, ended⟩
    · exact closed known
  | closes =>
    refine ⟨by rintro server ⟨⟩, ?_, distinct⟩
    intro server member
    rcases List.mem_append.mp member with last | known
    · refine serving ?_
      cases state : v.cell.state <;> simp [ServerCell.server?, state] at last
      rw [last]
    · exact closed known
  | serves | joins | fails => exact ⟨serving, closed, distinct⟩
  | starts | clears => exact ⟨by rintro server ⟨⟩, closed, distinct⟩

theorem answer?_cons (newcomer caller : Nat) (ending : Ending σ) :
    ({ v with answers := (newcomer, ending) :: v.answers } : Visits σ).answer? caller =
      if newcomer = caller then some ending else v.answer? caller := by
  by_cases same : newcomer = caller <;> simp [answer?, same]

theorem answer?_of_cons {newcomer caller : Nat} {given ending : Ending σ}
    (found : ({ v with answers := (newcomer, given) :: v.answers } : Visits σ).answer? caller =
      some ending) : newcomer = caller ∨ v.answer? caller = some ending := by
  rw [answer?_cons] at found
  split at found
  · exact .inl ‹_›
  · exact .inr found

/-- Only those who come and those who go on are answered. -/
theorem Moves.answer?_eq (moves : Moves v event w) {caller : Nat} (known : caller < v.callers)
    (stays : event ≠ .resume caller) : w.answer? caller = v.answer? caller := by
  cases moves with
  | serves serving => exact (answer?_cons _ _ _).trans (if_neg (Nat.ne_of_gt known))
  | takes | orphans | clears | fails =>
    refine (answer?_cons _ _ _).trans (if_neg ?_)
    intro same
    exact stays (congrArg Event.resume same)
  | joins | starts | ends | closes => rfl

theorem Moves.callers_le (moves : Moves v event w) : v.callers ≤ w.callers := by
  cases moves with
  | serves | joins | starts => exact Nat.le_succ _
  | ends | takes | orphans | clears | fails | closes => exact Nat.le_refl _

/-- Nobody knows the next to come yet. -/
theorem Attended.attempt?_newcomer (sound : Attended v) : v.attempt? v.callers = none :=
  Option.eq_none_iff_forall_ne_some.mpr fun _ waits => (Nat.lt_irrefl _ (sound.waiting waits)).elim

theorem Attended.answer?_newcomer (sound : Attended v) : v.answer? v.callers = none :=
  Option.eq_none_iff_forall_ne_some.mpr fun _ found => (Nat.lt_irrefl _ (sound.answered found)).elim

theorem Moves.attended (moves : Moves v event w) (sound : Attended v) : Attended w := by
  have unanswered := sound.answer?_newcomer
  obtain ⟨waiting, answered, once⟩ := sound
  refine ⟨?_, ?_, ?_⟩
  · intro caller attempt waits
    rcases moves.attempt?_iff.mp waits with ⟨waited, -⟩ | ⟨rfl, rfl, -, building⟩
    · exact Nat.lt_of_lt_of_le (waiting waited) moves.callers_le
    · cases moves with
      | serves | joins | starts => exact Nat.lt_succ_self _
  · intro caller ending found
    have known (old : v.answer? caller = some ending) : caller < w.callers :=
      Nat.lt_of_lt_of_le (answered old) moves.callers_le
    cases moves with
    | serves serving =>
      rcases answer?_of_cons found with rfl | old
      · exact Nat.lt_succ_self _
      · exact known old
    | takes waits | orphans waits | clears waits | fails waits =>
      rcases answer?_of_cons found with rfl | old
      · exact waiting waits
      · exact known old
    | joins | starts | ends | closes => exact known found
  · intro caller attempt waits
    rcases moves.attempt?_iff.mp waits with ⟨waited, stays⟩ | ⟨rfl, rfl, -, building⟩
    · exact (moves.answer?_eq (waiting waited) stays).trans (once waited)
    · cases moves with
      | serves serving => cases serving.symm.trans building
      | joins | starts => exact unanswered

theorem Moves.sound (moves : Moves v event w) (sound : Sound v) : Sound w :=
  ⟨moves.numbered sound.toNumbered, moves.owned sound.toOwned, moves.attended sound.toAttended⟩

theorem sound_empty : Sound ({} : Visits σ) where
  below _ member := nomatch member
  descending := .nil
  ended found := nomatch found
  building state := nomatch state
  serving state := nomatch state
  closed member := nomatch member
  distinct found := nomatch found
  waiting waits := nomatch waits
  answered found := nomatch found
  once waits := nomatch waits

/-! ### What the cell turns to and from -/

/-- The cell does not come back to an attempt. -/
theorem Moves.unwanted (moves : Moves v event w) (sound : Sound v) {attempt : Nat}
    (started : attempt ∈ v.builds) (unwanted : ¬ v.IsWanted attempt) : ¬ w.IsWanted attempt := by
  cases moves with
  | serves | joins | orphans | fails => exact unwanted
  | starts empty =>
    rintro (state | ⟨server, state, -⟩)
    · cases state
      exact Nat.lt_irrefl _ (sound.below _ started)
    · cases state
  | ends started running fresh =>
    rintro (state | ⟨server, state, found⟩)
    · exact unwanted (.inl state)
    · rcases (Moves.ends started running fresh).result?_iff.mp found with known | new
      · exact unwanted (.inr ⟨server, state, known⟩)
      · -- The server in use came of an attempt, so the new one is another.
        cases new
        obtain ⟨attempt, known⟩ := sound.serving state
        exact fresh server rfl attempt known
  | takes waits ended wanted =>
    rintro (state | ⟨server, state, found⟩)
    · cases state
    · cases state
      exact unwanted (sound.distinct ended found ▸ wanted)
  | clears | closes => rintro (state | ⟨server, state, -⟩) <;> cases state

/-- The cell turns from an attempt when it is closed or when the attempt has failed. -/
theorem Moves.turns (moves : Moves v event w) {attempt : Nat} (wanted : v.IsWanted attempt)
    (lost : ¬ w.IsWanted attempt) :
    event = .close ∨ ∃ caller source, event = .resume caller ∧
      v.attempt? caller = some attempt ∧ v.result? attempt = some (.error source) := by
  cases moves with
  | serves | joins | orphans | fails => exact (lost wanted).elim
  | starts empty =>
    rcases wanted with state | ⟨server, state, -⟩ <;> cases empty.symm.trans state
  | ends started running fresh =>
    refine (lost ?_).elim
    exact wanted.imp_right fun ⟨server, state, found⟩ =>
      ⟨server, state, (Moves.ends started running fresh).result?_stays found⟩
  | takes waits ended taken =>
    refine (lost (.inr ⟨_, rfl, ?_⟩)).elim
    rcases wanted with state | ⟨server, state, found⟩ <;>
      rcases taken with state' | ⟨server', state', found'⟩ <;> cases state.symm.trans state'
    · exact ended
    · exact found.trans (found'.symm.trans ended)
  | clears waits ended building =>
    rcases wanted with state | ⟨server, state, -⟩ <;> cases building.symm.trans state
    exact .inr ⟨_, _, rfl, waits, ended⟩
  | closes => exact .inl rfl

theorem not_isWanted_close (attempt : Nat) : ¬ v.close.IsWanted attempt := by
  rintro (state | ⟨server, state, -⟩) <;> cases state

theorem Sound.started_of_isWanted (sound : Sound v) {attempt : Nat} (wanted : v.IsWanted attempt) :
    attempt ∈ v.builds := by
  rcases wanted with state | ⟨server, -, found⟩
  · exact sound.building state
  · exact sound.ended found

theorem Moves.started (moves : Moves v event w) {attempt : Nat} (started : attempt ∈ v.builds) :
    attempt ∈ w.builds := by
  cases moves with
  | starts => exact List.mem_cons_of_mem _ started
  | serves | joins | ends | takes | orphans | clears | fails | closes => exact started

/-! ### After many steps -/

variable [DecidableEq σ] {events : List (Event σ)}

theorem Sound.run (sound : Sound v) (admitted : v.Admits events) : Sound (v.run events) :=
  run_keeps (fun _ sound moves => moves.sound sound) sound admitted

theorem sound_run (admitted : Admits ({} : Visits σ) events) : Sound (Visits.run {} events) :=
  sound_empty.run admitted

theorem result?_run (admitted : v.Admits events) {attempt : Nat} {result : Except Fault σ}
    (found : v.result? attempt = some result) : (v.run events).result? attempt = some result :=
  run_keeps (P := fun v => v.result? attempt = some result)
    (fun _ found moves => moves.result?_stays found) found admitted

theorem started_run (admitted : v.Admits events) {attempt : Nat} (started : attempt ∈ v.builds) :
    attempt ∈ (v.run events).builds :=
  run_keeps (P := fun v => attempt ∈ v.builds) (fun _ started moves => moves.started started) started
    admitted

theorem unwanted_run (sound : Sound v) (admitted : v.Admits events) {attempt : Nat}
    (started : attempt ∈ v.builds) (unwanted : ¬ v.IsWanted attempt) :
    ¬ (v.run events).IsWanted attempt := by
  have kept := run_keeps (P := fun v => Sound v ∧ attempt ∈ v.builds ∧ ¬ v.IsWanted attempt)
    (fun _ ⟨sound, started, unwanted⟩ moves =>
      ⟨moves.sound sound, moves.started started, moves.unwanted sound started unwanted⟩)
    ⟨sound, started, unwanted⟩ admitted
  exact kept.2.2

/-- A cell that has turned from an attempt was closed, or someone was told that the attempt had
failed. -/
theorem turns_run (admitted : v.Admits events) {attempt : Nat} (wanted : v.IsWanted attempt)
    (lost : ¬ (v.run events).IsWanted attempt) :
    .close ∈ events ∨ ∃ before caller after source, events = before ++ .resume caller :: after ∧
      (v.run before).attempt? caller = some attempt ∧
      (v.run before).result? attempt = some (.error source) := by
  obtain ⟨before, event, after, rfl, held, turned⟩ :=
    run_loses (P := fun v => v.IsWanted attempt) wanted lost
  have moves := step_moves (admits_append.mp admitted).2.1
  rcases moves.turns held turned with rfl | ⟨caller, source, rfl, waits, ended⟩
  · exact .inl (List.mem_append_right _ List.mem_cons_self)
  · exact .inr ⟨before, caller, after, source, rfl, waits, ended⟩

/-- A cell stays with an attempt that gives a server as long as it is not closed. -/
theorem isWanted_run_iff (sound : Sound v) (admitted : v.Admits events) {attempt : Nat} {server : σ}
    (wanted : v.IsWanted attempt) (given : (v.run events).result? attempt = some (.ok server)) :
    (v.run events).IsWanted attempt ↔ .close ∉ events := by
  constructor
  · intro held closes
    obtain ⟨before, after, rfl⟩ := List.append_of_mem closes
    obtain ⟨first, -, rest⟩ := admits_append.mp admitted
    have started := started_run first (sound.started_of_isWanted wanted)
    have moves : Moves (v.run before) .close (v.run before).close := .closes
    rw [run_append] at held
    exact unwanted_run (moves.sound (sound.run first)) rest started (not_isWanted_close attempt) held
  · intro untouched
    refine Classical.byContradiction fun turned => ?_
    rcases turns_run admitted wanted turned with closes | ⟨before, caller, after, source, rfl, -, failed⟩
    · exact untouched closes
    · obtain ⟨first, rest⟩ := admits_append.mp admitted
      have kept := result?_run rest failed
      rw [run_append] at given
      cases kept.symm.trans given

end OpcUa.Visits
