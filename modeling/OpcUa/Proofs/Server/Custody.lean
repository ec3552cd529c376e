import OpcUa.Proofs.Server.Sound

/-!
# Custody of servers

No server is lost and none is closed too early. A server that was built is in use, or someone waits
who will take it or close it, or it has been closed; the one in use has not. So when nobody waits at
most one server is open, and the cell has it.
-/

namespace OpcUa.Visits

variable {σ : Type} {v w : Visits σ} {event : Event σ}

/-- Whether someone waits for the attempt. -/
def IsAwaited (v : Visits σ) (attempt : Nat) : Prop :=
  ∃ caller, v.attempt? caller = some attempt

structure Accounted (v : Visits σ) : Prop where
  running : ∀ {attempt}, attempt ∈ v.builds → v.result? attempt = none → v.IsAwaited attempt
  building : ∀ {attempt}, v.cell.state = .building attempt → v.IsAwaited attempt
  untouched : ∀ {attempt server}, v.IsWanted attempt → v.result? attempt = some (.ok server) →
    server ∉ v.closed
  kept : ∀ {attempt server}, v.result? attempt = some (.ok server) →
    v.cell.state = .serving server ∨ v.IsAwaited attempt ∨ server ∈ v.closed

/-- Who waits goes on waiting but for the one whose turn it is. -/
theorem Moves.awaited (moves : Moves v event w) {attempt : Nat} (awaited : v.IsAwaited attempt) :
    w.IsAwaited attempt ∨ ∃ caller, event = .resume caller ∧ v.attempt? caller = some attempt := by
  obtain ⟨caller, waits⟩ := awaited
  by_cases goesOn : event = .resume caller
  · exact .inr ⟨caller, goesOn, waits⟩
  · exact .inl ⟨caller, moves.attempt?_iff.mpr (.inl ⟨waits, goesOn⟩)⟩

theorem Moves.awaited_of_ne (moves : Moves v event w) {attempt : Nat}
    (awaited : v.IsAwaited attempt) (stays : ∀ caller, event ≠ .resume caller) :
    w.IsAwaited attempt := by
  rcases moves.awaited awaited with stays' | ⟨caller, goesOn, -⟩
  · exact stays'
  · exact (stays caller goesOn).elim

/-- Who starts an attempt waits for it. -/
theorem awaited_of_starts (sound : Sound v) (moves : Moves v .enter w) {attempt : Nat}
    (building : w.cell.state = .building attempt) : w.IsAwaited attempt :=
  ⟨v.callers, moves.attempt?_iff.mpr (.inr ⟨rfl, rfl, sound.attempt?_newcomer, building⟩)⟩

theorem Moves.running_awaited (moves : Moves v event w) (sound : Sound v) (accounted : Accounted v)
    {attempt : Nat} (started : attempt ∈ w.builds) (running : w.result? attempt = none) :
    w.IsAwaited attempt := by
  have unfinished {result : Except Fault σ} : v.result? attempt ≠ some result := by
    intro found
    cases running.symm.trans (moves.result?_stays found)
  have known (started : attempt ∈ v.builds) : w.IsAwaited attempt := by
    have awaited := accounted.running started
      (Option.eq_none_iff_forall_ne_some.mpr fun _ => unfinished)
    rcases moves.awaited awaited with stays | ⟨caller, rfl, waits⟩
    · exact stays
    · cases moves with
      | takes waits' ended | orphans waits' ended | clears waits' ended | fails waits' ended =>
        cases waits.symm.trans waits'
        exact (unfinished ended).elim
  cases moves with
  | starts empty =>
    rcases List.mem_cons.mp started with rfl | old
    · exact awaited_of_starts sound (.starts empty) rfl
    · exact known old
  | serves | joins | ends | takes | orphans | clears | fails | closes => exact known started

theorem Moves.building_awaited (moves : Moves v event w) (sound : Sound v) (accounted : Accounted v)
    {attempt : Nat} (building : w.cell.state = .building attempt) : w.IsAwaited attempt := by
  have moves' := moves
  cases moves with
  | serves | joins | starts => exact awaited_of_starts sound moves' building
  | ends => exact moves'.awaited_of_ne (accounted.building building) fun _ => (nomatch ·)
  | orphans waits ended unwanted =>
    rcases moves'.awaited (accounted.building building) with stays | ⟨caller, ⟨⟩, waits'⟩
    · exact stays
    · cases waits.symm.trans waits'
      exact (unwanted (.inl building)).elim
  | fails waits ended moved =>
    rcases moves'.awaited (accounted.building building) with stays | ⟨caller, ⟨⟩, waits'⟩
    · exact stays
    · cases waits.symm.trans waits'
      exact (moved building).elim
  | takes | clears | closes => cases building

theorem Moves.wanted_untouched (moves : Moves v event w) (sound : Sound v) (accounted : Accounted v)
    {attempt : Nat} {server : σ} (wanted : w.IsWanted attempt)
    (given : w.result? attempt = some (.ok server)) : server ∉ w.closed := by
  cases moves with
  | serves | joins | fails => exact accounted.untouched wanted given
  | starts empty =>
    rcases wanted with ⟨⟨⟩⟩ | ⟨_, ⟨⟩, -⟩
    exact absurd (sound.below _ (sound.ended given)) (Nat.lt_irrefl _)
  | ends started running fresh =>
    rcases (Moves.ends started running fresh).result?_iff.mp given with known | new
    · refine accounted.untouched (wanted.imp_right ?_) known
      rintro ⟨other, state, found⟩
      cases given.symm.trans found
      exact ⟨server, state, known⟩
    · cases new
      intro closed
      obtain ⟨attempt, known⟩ := sound.closed closed
      exact fresh server rfl attempt known
  | takes waits ended taken =>
    rcases wanted with ⟨⟨⟩⟩ | ⟨_, ⟨⟩, found⟩
    cases given.symm.trans found
    exact accounted.untouched taken ended
  | orphans waits ended unwanted =>
    intro closed
    rcases List.mem_cons.mp closed with rfl | closed
    · exact unwanted (sound.distinct given ended ▸ wanted)
    · exact accounted.untouched wanted given closed
  | clears | closes => rcases wanted with ⟨⟨⟩⟩ | ⟨_, ⟨⟩, -⟩

theorem Moves.closed_stays (moves : Moves v event w) {server : σ} (closed : server ∈ v.closed) :
    server ∈ w.closed := by
  cases moves with
  | orphans => exact List.mem_cons_of_mem _ closed
  | closes => exact List.mem_append_right _ closed
  | serves | joins | starts | ends | takes | clears | fails => exact closed

/-- A server in use stays in use or is closed. -/
theorem Moves.serving_kept (moves : Moves v event w) {server : σ}
    (state : v.cell.state = .serving server) :
    w.cell.state = .serving server ∨ server ∈ w.closed := by
  cases moves with
  | serves | joins | ends | orphans | fails => exact .inl state
  | starts empty => cases empty.symm.trans state
  | takes waits ended taken =>
    rcases taken with building | ⟨other, state', found⟩
    · cases building.symm.trans state
    · cases state.symm.trans state'
      cases found.symm.trans ended
      exact .inl rfl
  | clears waits ended building => cases building.symm.trans state
  | closes => exact .inr (List.mem_append_left _ (by simp [ServerCell.server?, state]))

theorem Moves.built_kept (moves : Moves v event w) (accounted : Accounted v) {attempt : Nat}
    {server : σ} (given : w.result? attempt = some (.ok server)) :
    w.cell.state = .serving server ∨ w.IsAwaited attempt ∨ server ∈ w.closed := by
  rcases moves.result?_iff.mp given with known | rfl
  · rcases accounted.kept known with state | awaited | closed
    · exact (moves.serving_kept state).imp_right .inr
    · rcases moves.awaited awaited with stays | ⟨caller, rfl, waits⟩
      · exact .inr (.inl stays)
      · -- Its last waiter goes on: they take the server, or close it.
        cases moves with
        | takes waits' ended =>
          cases waits.symm.trans waits'
          cases ended.symm.trans known
          exact .inl rfl
        | orphans waits' ended =>
          cases waits.symm.trans waits'
          cases ended.symm.trans known
          exact .inr (.inr List.mem_cons_self)
        | clears waits' ended | fails waits' ended =>
          cases waits.symm.trans waits'
          cases ended.symm.trans known
    · exact .inr (.inr (moves.closed_stays closed))
  · have moves' := moves
    cases moves with
    | ends started running =>
      exact .inr (.inl (moves'.awaited_of_ne (accounted.running started running) fun _ => (nomatch ·)))

theorem Moves.accounted (moves : Moves v event w) (sound : Sound v) (accounted : Accounted v) :
    Accounted w where
  running := moves.running_awaited sound accounted
  building := moves.building_awaited sound accounted
  untouched := moves.wanted_untouched sound accounted
  kept := moves.built_kept accounted

theorem accounted_empty : Accounted ({} : Visits σ) where
  running started := nomatch started
  building state := nomatch state
  untouched _ given := nomatch given
  kept given := nomatch given

/-- A server is given to a caller only while it is in use. -/
theorem Moves.serving_of_served (moves : Moves v event w) {caller : Nat} {server : σ}
    (unanswered : v.answer? caller = none) (served : w.answer? caller = some (.served server)) :
    w.cell.state = .serving server := by
  have cons {newcomer : Nat} {ending : Ending σ} (told :
      ({ v with answers := (newcomer, ending) :: v.answers } : Visits σ).answer? caller =
        some (.served server)) : ending = .served server := by
    rw [answer?_cons, unanswered] at told
    split at told <;> cases told
    rfl
  cases moves with
  | serves serving =>
    cases cons served
    exact serving
  | takes =>
    cases cons served
    rfl
  | orphans | clears | fails => cases cons served
  | joins | starts | ends | closes => cases unanswered.symm.trans served

theorem server?_eq_some {server : σ} :
    v.cell.server? = some server ↔ v.cell.state = .serving server := by
  unfold ServerCell.server?
  cases v.cell.state <;> simp

theorem Moves.empty_stays (moves : Moves v event w) (empty : v.cell.state = .empty)
    (stays : event ≠ .enter) : w.cell.state = .empty := by
  cases moves with
  | serves | joins | starts => exact (stays rfl).elim
  | ends | orphans | fails => exact empty
  | takes waits ended taken =>
    rcases taken with state | ⟨server, state, -⟩ <;> cases empty.symm.trans state
  | clears | closes => rfl

theorem Accounted.closed_of_idle (accounted : Accounted v) (idle : v.waiting = []) {attempt : Nat}
    {server : σ} (given : v.result? attempt = some (.ok server)) :
    v.cell.server? = some server ∨ server ∈ v.closed := by
  rcases accounted.kept given with state | ⟨caller, waits⟩ | closed
  · exact .inl (server?_eq_some.mpr state)
  · rw [attempt?, idle] at waits
    cases waits
  · exact .inr closed

variable [DecidableEq σ]

theorem accounted_run {events : List (Event σ)} (admitted : Admits ({} : Visits σ) events) :
    Accounted (run {} events) := by
  have kept : Sound (run ({} : Visits σ) events) ∧ Accounted (run {} events) :=
    run_keeps (P := fun v => Sound v ∧ Accounted v)
      (fun _ ⟨sound, accounted⟩ moves => ⟨moves.sound sound, moves.accounted sound accounted⟩)
      ⟨sound_empty, accounted_empty⟩ admitted
  exact kept.2

/-- A closed cell is empty until the next caller comes. -/
theorem empty_run {events : List (Event σ)} (admitted : v.Admits events)
    (empty : v.cell.state = .empty) (nobody : .enter ∉ events) :
    (v.run events).cell.state = .empty := by
  refine run_keeps (P := fun v => v.cell.state = .empty) (fun comes empty moves => ?_) empty admitted
  refine moves.empty_stays empty ?_
  rintro rfl
  exact nobody comes

/-- The server in use is open, callers get no other, and every server that was built is in use,
awaited or closed. So when nobody waits no server is open but the one in use, and none at all if the
cell has been closed and nobody has come since. -/
theorem custody_of_servers {events : List (Event σ)} (admitted : Admits {} events)
    (reached : run {} events = v) :
    (∀ server, v.cell.server? = some server → server ∉ v.closed) ∧
    (∀ event caller server, v.Possible event → v.answer? caller = none →
      (v.step event).answer? caller = some (.served server) →
      (v.step event).cell.server? = some server) ∧
    (∀ attempt server, v.result? attempt = some (.ok server) →
      v.cell.server? = some server ∨ v.IsAwaited attempt ∨ server ∈ v.closed) ∧
    (v.waiting = [] → ∀ attempt server, v.result? attempt = some (.ok server) →
      server ∉ v.closed → v.cell.server? = some server) ∧
    ∀ rest, v.Admits (.close :: rest) → .enter ∉ rest → (v.run (.close :: rest)).waiting = [] →
      ∀ attempt server, (v.run (.close :: rest)).result? attempt = some (.ok server) →
        server ∈ (v.run (.close :: rest)).closed := by
  subst reached
  have sound := sound_run admitted
  have accounted := accounted_run admitted
  refine ⟨?_, ?_, ?_, ?_, ?_⟩
  · intro server held
    have state := server?_eq_some.mp held
    obtain ⟨attempt, given⟩ := sound.serving state
    exact accounted.untouched (.inr ⟨server, state, given⟩) given
  · intro event caller server possible unanswered served
    exact server?_eq_some.mpr ((step_moves possible).serving_of_served unanswered served)
  · intro attempt server given
    exact (accounted.kept given).imp_left server?_eq_some.mpr
  · intro idle attempt server given opened
    exact (accounted.closed_of_idle idle given).resolve_right opened
  · intro rest admitted' nobody idle attempt server given
    have empty := empty_run admitted'.2 (v := (run {} events).close) rfl nobody
    have later := accounted_run (admits_append.mpr ⟨admitted, admitted'⟩)
    rw [run_append] at later
    refine (later.closed_of_idle idle given).resolve_left fun held => ?_
    cases empty.symm.trans (server?_eq_some.mp held)

/-- The caller of an abandoned attempt goes on when the next one has given the server in use, and
closes their own. -/
theorem custody_of_orphan :
    Admits ({} : Visits Nat)
        [.enter, .close, .enter, .finish 0 (.ok 7), .finish 1 (.ok 8), .resume 1, .resume 0] ∧
      8 ∉ (run ({} : Visits Nat) [.enter, .close, .enter, .finish 0 (.ok 7), .finish 1 (.ok 8),
        .resume 1, .resume 0]).closed ∧
      7 ∈ (run ({} : Visits Nat) [.enter, .close, .enter, .finish 0 (.ok 7), .finish 1 (.ok 8),
        .resume 1, .resume 0]).closed := by
  have admitted : Admits ({} : Visits Nat)
      [.enter, .close, .enter, .finish 0 (.ok 7), .finish 1 (.ok 8), .resume 1, .resume 0] := by
    refine ⟨trivial, trivial, trivial, ⟨by decide, rfl, fun _ _ _ => (nomatch ·)⟩,
      ⟨by decide, rfl, ?_⟩, ⟨1, _, rfl, rfl⟩, ⟨0, _, rfl, rfl⟩, trivial⟩
    rintro server ⟨⟩ attempt found
    change ({ results := [(0, .ok 7)] } : Visits Nat).result? attempt = some (.ok 8) at found
    by_cases first : 0 = attempt <;> simp [result?, first] at found
  have custody := custody_of_servers admitted rfl
  refine ⟨admitted, custody.1 8 rfl, ?_⟩
  exact ((custody.2.2.1 0 7 rfl).resolve_left (by decide)).resolve_left (by rintro ⟨caller, ⟨⟩⟩)

end OpcUa.Visits
