import OpcUa.Proofs.Server.Sound

/-!
# Builds

A cell has its server built once. Only a caller who finds it empty starts an attempt, and between
two attempts the cell was closed or someone was told that the first had failed.
-/

namespace OpcUa.Visits

variable {σ : Type} {v w : Visits σ} {event : Event σ}

theorem enter_starts {cell : ServerCell σ} {attempt : Nat} :
    cell.enter.2 = .starts attempt ↔ cell.state = .empty ∧ cell.nextAttempt = attempt := by
  unfold ServerCell.enter
  cases cell.state <;> simp

/-- The attempts on record are those that callers started. -/
theorem Moves.builds_eq (moves : Moves v event w) :
    w.builds = v.builds ∨
      event = .enter ∧ ∃ attempt, v.cell.enter.2 = .starts attempt ∧
        w.builds = attempt :: v.builds := by
  cases moves with
  | starts empty => exact .inr ⟨rfl, _, enter_starts.mpr ⟨empty, rfl⟩, rfl⟩
  | serves | joins | ends | takes | orphans | clears | fails | closes => exact .inl rfl

theorem isWanted_of_starts {attempt : Nat} (starts : v.cell.enter.2 = .starts attempt) :
    v.enter.IsWanted attempt := by
  obtain ⟨empty, rfl⟩ := enter_starts.mp starts
  have moves := enter_moves v
  generalize v.enter = w at moves
  cases moves with
  | serves state | joins state => cases empty.symm.trans state
  | starts => exact .inl rfl

theorem not_isWanted_of_empty (empty : v.cell.state = .empty) (attempt : Nat) :
    ¬ v.IsWanted attempt := by
  rintro (state | ⟨server, state, -⟩) <;> cases empty.symm.trans state

/-- Whether the cell builds for every attempt that runs, so that there is at most one. -/
def BuildsOne (v : Visits σ) : Prop :=
  ∀ attempt ∈ v.builds, v.result? attempt = none → v.cell.state = .building attempt

theorem Moves.buildsOne (moves : Moves v event w) (stays : event ≠ .close) (one : BuildsOne v) :
    BuildsOne w := by
  intro attempt started running
  have unfinished : v.result? attempt = none := by
    cases found : v.result? attempt with
    | none => rfl
    | some result => cases running.symm.trans (moves.result?_stays found)
  cases moves with
  | starts empty =>
    rcases List.mem_cons.mp started with rfl | known
    · rfl
    · cases empty.symm.trans (one attempt known unfinished)
  | takes waits ended taken =>
    have building := one attempt started unfinished
    rcases taken with state | ⟨server, state, -⟩ <;> cases building.symm.trans state
    cases unfinished.symm.trans ended
  | clears waits ended state =>
    cases (one attempt started unfinished).symm.trans state
    cases unfinished.symm.trans ended
  | closes => exact (stays rfl).elim
  | serves | joins | ends | orphans | fails => exact one attempt started unfinished

variable [DecidableEq σ] {events : List (Event σ)}

theorem buildsOne_run (admitted : Admits ({} : Visits σ) events) (untouched : .close ∉ events) :
    BuildsOne (run {} events) := by
  refine run_keeps (fun comes one moves => moves.buildsOne ?_ one) (fun _ => (nomatch ·)) admitted
  rintro rfl
  exact untouched comes

/-- Between two starts the cell was closed, or someone was told that the first attempt failed. -/
theorem turns_of_starts (sound : Sound v) {between : List (Event σ)} {first second : Nat}
    (admitted : v.Admits (.enter :: between)) (starts : v.cell.enter.2 = .starts first)
    (again : (v.enter.run between).cell.enter.2 = .starts second) :
    first < second ∧
      (.close ∈ between ∨ ∃ mid caller rest source, between = mid ++ .resume caller :: rest ∧
        (v.enter.run mid).attempt? caller = some first ∧
        (v.enter.run mid).result? first = some (.error source)) := by
  obtain ⟨empty, rfl⟩ := enter_starts.mp again
  have wanted := isWanted_of_starts starts
  have entered := (enter_moves v).sound sound
  have started := started_run admitted.2 (entered.started_of_isWanted wanted)
  refine ⟨(entered.run admitted.2).below _ started, ?_⟩
  exact turns_run admitted.2 wanted (not_isWanted_of_empty empty first)

omit [DecidableEq σ] in
/-- A caller who starts an attempt has it put on record. -/
theorem builds_enter (v : Visits σ) :
    (∃ attempt, v.cell.enter.2 = .starts attempt ∧ v.enter.builds = attempt :: v.builds) ∨
      (∀ attempt, v.cell.enter.2 ≠ .starts attempt) ∧ v.enter.builds = v.builds := by
  unfold enter
  rcases v.cell.enter with ⟨cell, server | attempt | attempt⟩
  · exact .inr ⟨fun _ => (nomatch ·), rfl⟩
  · exact .inl ⟨attempt, rfl, rfl⟩
  · exact .inr ⟨fun _ => (nomatch ·), rfl⟩

/-- Whatever else comes, possible or not, leaves the attempts on record. -/
theorem builds_step (stays : event ≠ .enter) : (v.step event).builds = v.builds := by
  cases event with
  | enter => exact (stays rfl).elim
  | finish attempt result =>
    rw [step, finish]
    split <;> rfl
  | resume caller =>
    rw [step, resume]
    split
    · rfl
    · split <;> rfl
  | close => rfl

/-- An attempt that gave a server keeps callers from starting another until the cell is closed. -/
theorem not_starts_of_given (sound : Sound v) {between : List (Event σ)} {attempt other : Nat}
    {server : σ} (admitted : v.Admits (.enter :: between))
    (starts : v.cell.enter.2 = .starts attempt)
    (given : (v.enter.run between).result? attempt = some (.ok server))
    (untouched : .close ∉ between) : (v.enter.run between).cell.enter.2 ≠ .starts other := by
  intro again
  have wanted := (isWanted_run_iff ((enter_moves v).sound sound) admitted.2
    (isWanted_of_starts starts) given).mpr untouched
  exact not_isWanted_of_empty (enter_starts.mp again).1 attempt wanted

/-- Whether the caller who comes after the steps before starts that attempt. -/
def Starts (before : List (Event σ)) (attempt : Nat) : Prop :=
  (run {} before).cell.enter.2 = .starts attempt

/-- Attempts start at an empty cell, with growing numbers, and between two of them the cell was
closed or someone was told that the first had failed. So as long as the cell is not closed at most
one runs at a time, and after one has given a server no other starts. -/
theorem builds_once (admitted : Admits {} events) :
    (∀ before event after, events = before ++ event :: after →
      (run {} (before ++ [event])).builds ≠ (run {} before).builds →
      event = .enter ∧ (run {} before).cell.state = .empty ∧
        ∃ attempt, Starts before attempt ∧
          (run {} (before ++ [event])).builds = attempt :: (run {} before).builds) ∧
    (run {} events).builds.Pairwise (· > ·) ∧
    (∀ before between after first second,
      events = before ++ .enter :: between ++ .enter :: after → Starts before first →
      Starts (before ++ .enter :: between) second →
      first < second ∧
        (.close ∈ between ∨ ∃ mid caller rest source, between = mid ++ .resume caller :: rest ∧
          (run {} (before ++ .enter :: mid)).attempt? caller = some first ∧
          (run {} (before ++ .enter :: mid)).result? first = some (.error source))) ∧
    (.close ∉ events → ∀ first ∈ (run {} events).builds, ∀ second ∈ (run {} events).builds,
      (run {} events).result? first = none → (run {} events).result? second = none →
      first = second) ∧
    ∀ before between after attempt server,
      events = before ++ .enter :: between ++ .enter :: after → Starts before attempt →
      (run {} (before ++ .enter :: between)).result? attempt = some (.ok server) →
      .close ∉ between → ∀ other, ¬ Starts (before ++ .enter :: between) other := by
  refine ⟨?_, (sound_run admitted).descending, ?_, ?_, ?_⟩
  · rintro before event after rfl changed
    have moves := step_moves (admits_append.mp admitted).2.1
    rw [run_append] at changed ⊢
    rcases moves.builds_eq with same | ⟨rfl, attempt, starts, grown⟩
    · exact (changed same).elim
    · exact ⟨rfl, (enter_starts.mp starts).1, attempt, starts, grown⟩
  · rintro before between after first second rfl starts again
    obtain ⟨prior, admitted⟩ := admits_append.mp (admits_append.mp admitted).1
    simp only [Starts, run_append {} before] at starts again ⊢
    exact turns_of_starts (sound_run prior) admitted starts again
  · intro untouched first known second known' running running'
    have one := buildsOne_run admitted untouched
    cases (one first known running).symm.trans (one second known' running')
    rfl
  · rintro before between after attempt server rfl starts given untouched other again
    obtain ⟨prior, admitted⟩ := admits_append.mp (admits_append.mp admitted).1
    simp only [Starts, run_append {} before] at starts given again
    exact not_starts_of_given (sound_run prior) admitted starts given untouched again

/-- An attempt fails, its caller is told so, and the next caller starts another. -/
theorem builds_once_after_failure :
    Admits ({} : Visits Nat)
        [.enter, .finish 0 (.error .namespaceIndexMissing), .resume 0, .enter] ∧
      (run ({} : Visits Nat) [.enter, .finish 0 (.error .namespaceIndexMissing), .resume 0,
        .enter]).builds.Pairwise (· > ·) ∧
      (0 < 1 ∧ ∃ mid caller rest source,
        ([.finish 0 (.error .namespaceIndexMissing), .resume 0] : List (Event Nat)) =
          mid ++ .resume caller :: rest ∧
        (run {} ([] ++ .enter :: mid)).attempt? caller = some 0 ∧
        (run {} ([] ++ .enter :: mid)).result? 0 = some (.error source)) := by
  have admitted : Admits ({} : Visits Nat)
      [.enter, .finish 0 (.error .namespaceIndexMissing), .resume 0, .enter] :=
    ⟨trivial, ⟨by decide, rfl, fun _ => (nomatch ·)⟩, ⟨0, _, rfl, rfl⟩, trivial, trivial⟩
  have once := builds_once admitted
  have starts := once.2.2.1 [] [.finish 0 (.error .namespaceIndexMissing), .resume 0] [] 0 1 rfl
    rfl rfl
  exact ⟨admitted, once.2.1, starts.1, starts.2.resolve_left (by simp)⟩

end OpcUa.Visits
