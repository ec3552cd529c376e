import OpcUa.Application.Workshop
import OpcUa.Proofs.Server.Sound

/-!
# Outcomes of visits

Whoever joins an attempt is told what came of it, however late they go on and whatever the cell has
been through meanwhile: the fault that it failed with, or the server that it gave unless the cell was
closed since they came. Nobody who comes after someone was told of the failure hears of it again.
-/

namespace OpcUa.Visits

variable {σ : Type} {v w : Visits σ} {event : Event σ}

/-- What a caller can be told, who joined that attempt when they came, or none. -/
structure CameFor (v : Visits σ) (caller : Nat) (joined : Option Nat) : Prop where
  known : caller < v.callers
  waits : ∀ {attempt}, v.attempt? caller = some attempt → joined = some attempt
  failed : ∀ {source}, v.answer? caller = some (.failed source) →
    ∃ attempt, joined = some attempt ∧ v.result? attempt = some (.error source)

theorem Moves.answer?_resume {caller : Nat} (moves : Moves v (.resume caller) w) :
    ∃ attempt, v.attempt? caller = some attempt ∧
      ((∃ source, v.result? attempt = some (.error source) ∧
          w.answer? caller = some (.failed source)) ∨
        ∃ server, v.result? attempt = some (.ok server) ∧
          (v.IsWanted attempt ∧ w.answer? caller = some (.served server) ∨
            ¬ v.IsWanted attempt ∧ w.answer? caller = some (.abandoned server))) := by
  have answered (ending : Ending σ) :
      ({ v with answers := (caller, ending) :: v.answers } : Visits σ).answer? caller =
        some ending := (answer?_cons _ _ _).trans (if_pos rfl)
  cases moves with
  | takes waits ended wanted =>
    exact ⟨_, waits, .inr ⟨_, ended, .inl ⟨wanted, answered _⟩⟩⟩
  | orphans waits ended unwanted =>
    exact ⟨_, waits, .inr ⟨_, ended, .inr ⟨unwanted, answered _⟩⟩⟩
  | clears waits ended | fails waits ended => exact ⟨_, waits, .inl ⟨_, ended, answered _⟩⟩

theorem Moves.cameFor (moves : Moves v event w) {caller : Nat} {joined : Option Nat}
    (came : CameFor v caller joined) : CameFor w caller joined := by
  refine ⟨Nat.lt_of_lt_of_le came.known moves.callers_le, ?_, ?_⟩
  · intro attempt waits
    rcases moves.attempt?_iff.mp waits with ⟨waited, -⟩ | ⟨-, new, -⟩
    · exact came.waits waited
    · exact absurd came.known (new ▸ Nat.lt_irrefl _)
  · intro source told
    have stays (attempt : Nat) : joined = some attempt ∧ v.result? attempt = some (.error source) →
        joined = some attempt ∧ w.result? attempt = some (.error source) :=
      .imp_right moves.result?_stays
    by_cases goesOn : event = .resume caller
    · subst goesOn
      obtain ⟨attempt, waits, ⟨cause, ended, answer⟩ | ⟨server, -, ⟨-, answer⟩ | ⟨-, answer⟩⟩⟩ :=
        moves.answer?_resume <;> cases answer.symm.trans told
      exact ⟨attempt, stays attempt ⟨came.waits waits, ended⟩⟩
    · rw [moves.answer?_eq came.known goesOn] at told
      exact (came.failed told).imp stays

/-- Who has just come is told nothing but the server in use. -/
theorem cameFor_enter (sound : Sound v) :
    CameFor v.enter v.callers (v.enter.attempt? v.callers) := by
  have moves := enter_moves v
  refine ⟨?_, id, ?_⟩
  · generalize v.enter = w at moves
    cases moves with
    | serves | joins | starts => exact Nat.lt_succ_self _
  · intro source told
    generalize v.enter = w at moves told
    cases moves with
    | serves serving => cases told.symm.trans ((answer?_cons _ _ _).trans (if_pos rfl))
    | joins | starts => cases sound.answer?_newcomer.symm.trans told

theorem Sound.building_of_joined (sound : Sound v) {attempt : Nat}
    (waits : v.enter.attempt? v.callers = some attempt) :
    v.enter.cell.state = .building attempt := by
  rcases (enter_moves v).attempt?_iff.mp waits with ⟨waited, -⟩ | ⟨-, -, -, building⟩
  · cases sound.attempt?_newcomer.symm.trans waited
  · exact building

theorem Moves.answer?_stays (moves : Moves v event w) (sound : Sound v) {caller : Nat}
    {ending : Ending σ} (told : v.answer? caller = some ending) :
    w.answer? caller = some ending := by
  have stays : event ≠ .resume caller := by
    rintro rfl
    obtain ⟨attempt, waits, -⟩ := moves.answer?_resume
    cases (sound.once waits).symm.trans told
  exact (moves.answer?_eq (sound.answered told) stays).trans told

/-- Once someone was told of a failure the cell is not at that attempt. -/
theorem Moves.turned_of_failed {first attempt : Nat} {source : Fault}
    (moves : Moves v (.resume first) w) (waits : v.attempt? first = some attempt)
    (failed : v.result? attempt = some (.error source)) : ¬ w.IsWanted attempt := by
  cases moves with
  | takes waits' ended | orphans waits' ended =>
    cases waits.symm.trans waits'
    cases failed.symm.trans ended
  | clears => rintro (state | ⟨server, state, -⟩) <;> cases state
  | fails waits' ended moved =>
    cases waits.symm.trans waits'
    rintro (state | ⟨server, -, given⟩)
    · exact moved state
    · cases failed.symm.trans given

variable [DecidableEq σ] {events : List (Event σ)}

theorem answer?_run (sound : Sound v) (admitted : v.Admits events) {caller : Nat}
    {ending : Ending σ} (told : v.answer? caller = some ending) :
    (v.run events).answer? caller = some ending := by
  have kept : Sound (v.run events) ∧ (v.run events).answer? caller = some ending :=
    run_keeps (P := fun v => Sound v ∧ v.answer? caller = some ending)
      (fun _ ⟨sound, told⟩ moves => ⟨moves.sound sound, moves.answer?_stays sound told⟩)
      ⟨sound, told⟩ admitted
  exact kept.2

theorem cameFor_run {caller : Nat} {joined : Option Nat} (came : CameFor v caller joined)
    (admitted : v.Admits events) : CameFor (v.run events) caller joined :=
  run_keeps (fun _ came moves => moves.cameFor came) came admitted

/-- What a caller is told who joins an attempt and goes on after the steps between. -/
theorem answer?_of_joined (sound : Sound v) {between after : List (Event σ)} {attempt : Nat}
    (admitted : v.Admits (.enter :: between ++ .resume v.callers :: after))
    (joined : v.enter.attempt? v.callers = some attempt) :
    (∃ source, (v.enter.run between).result? attempt = some (.error source) ∧
      (v.run (.enter :: between ++ .resume v.callers :: after)).answer? v.callers =
        some (.failed source)) ∨
    ∃ server, (v.enter.run between).result? attempt = some (.ok server) ∧
      (.close ∉ between ∧
          (v.run (.enter :: between ++ .resume v.callers :: after)).answer? v.callers =
            some (.served server) ∨
        .close ∈ between ∧
          (v.run (.enter :: between ++ .resume v.callers :: after)).answer? v.callers =
            some (.abandoned server)) := by
  obtain ⟨⟨-, meanwhile⟩, goesOn, rest⟩ := admits_append.mp admitted
  have entered : Sound v.enter := (enter_moves v).sound sound
  have later : Sound (v.enter.run between) := entered.run meanwhile
  have wanted : v.enter.IsWanted attempt := .inl (sound.building_of_joined joined)
  have moves := step_moves goesOn
  have told {ending : Ending σ}
      (answer : ((v.enter.run between).resume v.callers).answer? v.callers = some ending) :
      (v.run (.enter :: between ++ .resume v.callers :: after)).answer? v.callers = some ending := by
    rw [run_append]
    exact answer?_run (moves.sound later) rest answer
  obtain ⟨other, waits, outcome⟩ := moves.answer?_resume
  -- Who still waits does so for the attempt that they joined.
  cases joined.symm.trans ((cameFor_run (cameFor_enter sound) meanwhile).waits waits)
  rcases outcome with ⟨source, failed, answer⟩ | ⟨server, given, held⟩
  · exact .inl ⟨source, failed, told answer⟩
  · have iff := isWanted_run_iff entered meanwhile wanted given
    refine .inr ⟨server, given, ?_⟩
    rcases held with ⟨held, answer⟩ | ⟨turned, answer⟩
    · exact .inl ⟨iff.mp held, told answer⟩
    · have closes : .close ∈ between :=
        Classical.byContradiction fun untouched => turned (iff.mpr untouched)
      exact .inr ⟨closes, told answer⟩

/-- Who comes after someone was told of a failure joins another attempt, if any, and hears of no
failure but of that one. -/
theorem spared_of_failed (sound : Sound v) {between after : List (Event σ)} {first attempt : Nat}
    {source : Fault} (admitted : v.Admits (.resume first :: between ++ .enter :: after))
    (waits : v.attempt? first = some attempt)
    (failed : v.result? attempt = some (.error source)) {u : Visits σ}
    (reached : (v.resume first).run between = u) :
    u.enter.attempt? u.callers ≠ some attempt ∧
      ∀ other, (u.enter.run after).answer? u.callers = some (.failed other) →
        ∃ joined, joined ≠ attempt ∧ u.enter.attempt? u.callers = some joined ∧
          (u.enter.run after).result? joined = some (.error other) := by
  obtain ⟨⟨told, meanwhile⟩, -, rest⟩ := admits_append.mp admitted
  subst reached
  have moves := step_moves told
  have later := (moves.sound sound).run meanwhile
  have started := moves.started (sound.ended failed)
  have turned : ¬ ((v.resume first).run between).enter.IsWanted attempt :=
    (enter_moves _).unwanted later (started_run meanwhile started)
      (unwanted_run (moves.sound sound) meanwhile started (moves.turned_of_failed waits failed))
  have spared : ((v.resume first).run between).enter.attempt?
      ((v.resume first).run between).callers ≠ some attempt :=
    fun joined => turned (.inl (later.building_of_joined joined))
  refine ⟨spared, fun other answer => ?_⟩
  obtain ⟨joined, same, result⟩ := (cameFor_run (cameFor_enter later) rest).failed answer
  exact ⟨joined, fun equal => spared (equal ▸ same), same, result⟩

/-- Whether `caller` is the one to come after the steps before, and joins that attempt. -/
def Joins (before : List (Event σ)) (caller attempt : Nat) : Prop :=
  (run {} before).callers = caller ∧
    (run {} (before ++ [.enter])).attempt? caller = some attempt

/-- Everyone who joins an attempt is told what came of it. A failure is told to nobody who comes
after someone was told of it. -/
theorem outcome_of_attempts (kind : TransportKind) :
    (∀ (before between after : List (Event σ)) (caller attempt : Nat),
      Admits {} (before ++ .enter :: between ++ .resume caller :: after) →
      Joins before caller attempt →
      (∃ result, (run {} (before ++ .enter :: between)).result? attempt = some result) ∧
      (∀ source,
        (run {} (before ++ .enter :: between)).result? attempt = some (.error source) →
        (run {} (before ++ .enter :: between ++ .resume caller :: after)).reply? kind caller =
          some (.error (.serverConstruction kind source))) ∧
      ∀ server, (run {} (before ++ .enter :: between)).result? attempt = some (.ok server) →
        ((run {} (before ++ .enter :: between ++ .resume caller :: after)).reply? kind caller =
          some (.ok server) ↔ .close ∉ between) ∧
        (.close ∈ between →
          (run {} (before ++ .enter :: between ++ .resume caller :: after)).reply? kind caller =
            some (.error (.closed kind)))) ∧
    ∀ (before between after : List (Event σ)) (first late attempt : Nat) (source : Fault),
      Admits {} (before ++ .resume first :: between ++ .enter :: after) →
      (run {} before).attempt? first = some attempt →
      (run {} before).result? attempt = some (.error source) →
      (run {} (before ++ .resume first :: between)).callers = late →
      ¬ Joins (before ++ .resume first :: between) late attempt ∧
      ∀ other,
        (run {} (before ++ .resume first :: between ++ .enter :: after)).reply? kind late =
          some (.error (.serverConstruction kind other)) →
        ∃ joined, joined ≠ attempt ∧ Joins (before ++ .resume first :: between) late joined ∧
          (run {} (before ++ .resume first :: between ++ .enter :: after)).result? joined =
            some (.error other) := by
  constructor
  · rintro before between after caller attempt admitted ⟨rfl, joined⟩
    rw [List.append_assoc] at admitted ⊢
    obtain ⟨prior, admitted⟩ := admits_append.mp admitted
    simp only [run_append {} before, reply?] at joined ⊢
    rcases answer?_of_joined (sound_run prior) admitted joined with
      ⟨source, failed, told⟩ | ⟨server, given, ⟨untouched, told⟩ | ⟨closes, told⟩⟩
    · refine ⟨⟨_, failed⟩, ?_, ?_⟩
      · intro other failed'
        cases failed.symm.trans failed'
        rw [told]
        rfl
      · intro server given
        cases failed.symm.trans given
    · refine ⟨⟨_, given⟩, ?_, ?_⟩
      · intro source failed
        cases given.symm.trans failed
      · intro server' given'
        cases given.symm.trans given'
        rw [told]
        exact ⟨⟨fun _ => untouched, fun _ => rfl⟩, fun closes => (untouched closes).elim⟩
    · refine ⟨⟨_, given⟩, ?_, ?_⟩
      · intro source failed
        cases given.symm.trans failed
      · intro server' given'
        rw [told]
        exact ⟨⟨(nomatch ·), fun untouched => (untouched closes).elim⟩, fun _ => rfl⟩
  · rintro before between after first late attempt source admitted waits failed rfl
    have reached := (run_append {} before (.resume first :: between)).symm
    have whole := run_append {} (before ++ .resume first :: between) (.enter :: after)
    have entered := run_append {} (before ++ .resume first :: between) [.enter]
    rw [List.append_assoc] at admitted
    obtain ⟨prior, admitted⟩ := admits_append.mp admitted
    obtain ⟨spared, hears⟩ := spared_of_failed (sound_run prior) admitted waits failed reached
    simp only [Joins, reply?, whole, entered, true_and]
    refine ⟨spared, fun other told => ?_⟩
    obtain ⟨ending, answer, same⟩ := Option.map_eq_some_iff.mp told
    cases ending with
    | failed cause =>
      cases same
      exact hears _ answer
    | served | abandoned => cases same

/-- One of two callers is served before the cell is closed, and the other goes on after it. One is
told that an attempt failed, and the next to come starts another. -/
theorem outcome_of_closed_and_failed_attempts :
    (Admits ({} : Visits Nat)
        [.enter, .enter, .finish 0 (.ok 7), .resume 0, .close, .resume 1] ∧
      Joins ([.enter] : List (Event Nat)) 1 0 ∧
      reply? .opcTcp
        (run ({} : Visits Nat) [.enter, .enter, .finish 0 (.ok 7), .resume 0, .close, .resume 1]) 1 =
          some (.error (.closed .opcTcp))) ∧
    Admits ({} : Visits Nat)
        [.enter, .finish 0 (.error .namespaceIndexMissing), .resume 0, .enter] ∧
      ¬ Joins ([.enter, .finish 0 (.error .namespaceIndexMissing), .resume 0] :
        List (Event Nat)) 1 0 := by
  constructor
  · have admitted : Admits ({} : Visits Nat)
        ([.enter] ++ .enter :: [.finish 0 (.ok 7), .resume 0, .close] ++ .resume 1 :: []) :=
      ⟨trivial, trivial, ⟨by decide, rfl, fun _ _ _ => (nomatch ·)⟩, ⟨0, _, rfl, rfl⟩, trivial,
        ⟨0, _, rfl, rfl⟩, trivial⟩
    have told := (outcome_of_attempts .opcTcp).1 _ _ _ 1 0 admitted ⟨rfl, rfl⟩
    exact ⟨admitted, ⟨rfl, rfl⟩, (told.2.2 7 rfl).2 (by simp)⟩
  · have admitted : Admits ({} : Visits Nat)
        ([.enter, .finish 0 (.error .namespaceIndexMissing)] ++ .resume 0 :: [] ++ .enter :: []) :=
      ⟨trivial, ⟨by decide, rfl, fun _ => (nomatch ·)⟩, ⟨0, _, rfl, rfl⟩, trivial, trivial⟩
    have spared := (outcome_of_attempts .opcTcp).2 _ _ _ 0 1 0 _ admitted rfl rfl rfl
    exact ⟨admitted, spared.1⟩

end OpcUa.Visits
