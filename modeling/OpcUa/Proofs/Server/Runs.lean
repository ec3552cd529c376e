import OpcUa.Server.Visits

/-!
# Runs of visits

Which steps can come next, and what each of them does to the cell, to the results and to those who
wait. `Sound.lean` shows what holds after any number of them.
-/

namespace OpcUa.Visits

variable {σ : Type}

/-- Whether no attempt gave the server. -/
def IsFresh (v : Visits σ) (server : σ) : Prop :=
  ∀ attempt, v.result? attempt ≠ some (.ok server)

/-- Whether the cell has room for the result of the attempt: it waits for it, or has the server that
came of it in use. -/
def IsWanted (v : Visits σ) (attempt : Nat) : Prop :=
  v.cell.state = .building attempt ∨
    ∃ server, v.cell.state = .serving server ∧ v.result? attempt = some (.ok server)

/-- Whether the step can come next. An attempt ends once, after a caller has started it, and gives
no server that another one gave. A caller goes on when the attempt that they wait for has ended. -/
def Possible (v : Visits σ) : Event σ → Prop
  | .enter | .close => True
  | .finish attempt result =>
    attempt ∈ v.builds ∧ v.result? attempt = none ∧
      ∀ server, result = .ok server → v.IsFresh server
  | .resume caller =>
    ∃ attempt result, v.attempt? caller = some attempt ∧ v.result? attempt = some result

/-- What the steps that can come do. -/
inductive Moves (v : Visits σ) : Event σ → Visits σ → Prop where
  | serves {server : σ} (serving : v.cell.state = .serving server) :
    Moves v .enter
      { v with callers := v.callers + 1, answers := (v.callers, .served server) :: v.answers }
  | joins {attempt : Nat} (building : v.cell.state = .building attempt) :
    Moves v .enter
      { v with callers := v.callers + 1, waiting := v.waiting ++ [⟨v.callers, attempt⟩] }
  | starts (empty : v.cell.state = .empty) :
    Moves v .enter
      { v with
        cell := ⟨.building v.cell.nextAttempt, v.cell.nextAttempt + 1⟩
        callers := v.callers + 1
        builds := v.cell.nextAttempt :: v.builds
        waiting := v.waiting ++ [⟨v.callers, v.cell.nextAttempt⟩] }
  | ends {attempt : Nat} {result : Except Fault σ} (started : attempt ∈ v.builds)
      (running : v.result? attempt = none)
      (fresh : ∀ server, result = .ok server → v.IsFresh server) :
    Moves v (.finish attempt result) { v with results := (attempt, result) :: v.results }
  | takes {caller attempt : Nat} {server : σ} (waits : v.attempt? caller = some attempt)
      (ended : v.result? attempt = some (.ok server)) (wanted : v.IsWanted attempt) :
    Moves v (.resume caller)
      { v.leave caller with
        cell := ⟨.serving server, v.cell.nextAttempt⟩
        answers := (caller, .served server) :: v.answers }
  | orphans {caller attempt : Nat} {server : σ} (waits : v.attempt? caller = some attempt)
      (ended : v.result? attempt = some (.ok server)) (unwanted : ¬ v.IsWanted attempt) :
    Moves v (.resume caller)
      { v.leave caller with
        answers := (caller, .abandoned server) :: v.answers
        closed := server :: v.closed }
  | clears {caller attempt : Nat} {source : Fault} (waits : v.attempt? caller = some attempt)
      (ended : v.result? attempt = some (.error source))
      (building : v.cell.state = .building attempt) :
    Moves v (.resume caller)
      { v.leave caller with
        cell := ⟨.empty, v.cell.nextAttempt⟩
        answers := (caller, .failed source) :: v.answers }
  | fails {caller attempt : Nat} {source : Fault} (waits : v.attempt? caller = some attempt)
      (ended : v.result? attempt = some (.error source))
      (moved : v.cell.state ≠ .building attempt) :
    Moves v (.resume caller)
      { v.leave caller with answers := (caller, .failed source) :: v.answers }
  | closes :
    Moves v .close
      { v with
        cell := ⟨.empty, v.cell.nextAttempt⟩
        closed := v.cell.server?.toList ++ v.closed }

/-! ### What steps do to the records -/

variable {v w : Visits σ} {event : Event σ}

theorem result?_cons (ended attempt : Nat) (given : Except Fault σ) :
    ({ v with results := (ended, given) :: v.results } : Visits σ).result? attempt =
      if ended = attempt then some given else v.result? attempt := by
  by_cases same : ended = attempt <;> simp [result?, same]

/-- Results stay, and an attempt that ends adds one. -/
theorem Moves.result?_iff (moves : Moves v event w) {attempt : Nat} {result : Except Fault σ} :
    w.result? attempt = some result ↔
      v.result? attempt = some result ∨ event = .finish attempt result := by
  cases moves with
  | @ends ended given started running fresh =>
    rw [result?_cons]
    by_cases same : ended = attempt
    · subst same
      simp [running]
    · simp [same]
  | _ => simp [result?, leave]

theorem Moves.result?_stays (moves : Moves v event w) {attempt : Nat} {result : Except Fault σ}
    (found : v.result? attempt = some result) : w.result? attempt = some result :=
  moves.result?_iff.mpr (.inl found)

theorem attempt?_leave (caller other : Nat) :
    (v.leave caller).attempt? other = if other = caller then none else v.attempt? other := by
  unfold attempt? leave
  rw [List.find?_filter]
  by_cases same : other = caller
  · subst same
    simp
  · rw [if_neg same]
    congr 2
    funext waiter
    by_cases found : waiter.caller = other
    · simp [found, same]
    · simp [found]

theorem attempt?_append {newcomer found caller attempt : Nat} :
    ({ v with waiting := v.waiting ++ [⟨newcomer, found⟩] } : Visits σ).attempt? caller =
        some attempt ↔
      v.attempt? caller = some attempt ∨
        (caller = newcomer ∧ v.attempt? caller = none ∧ found = attempt) := by
  by_cases same : newcomer = caller
  · subst same
    cases waits : v.waiting.find? (·.caller == newcomer) <;> simp [attempt?, waits]
  · cases waits : v.waiting.find? (·.caller == caller) <;>
      simp [attempt?, waits, same, Ne.symm same]

/-- Who waits: those who waited and did not go on, and who has just come to a cell that builds. -/
theorem Moves.attempt?_iff (moves : Moves v event w) {caller attempt : Nat} :
    w.attempt? caller = some attempt ↔
      (v.attempt? caller = some attempt ∧ event ≠ .resume caller) ∨
        (event = .enter ∧ caller = v.callers ∧ v.attempt? caller = none ∧
          w.cell.state = .building attempt) := by
  have stays (other : Nat) : (v.leave other).attempt? caller = some attempt ↔
      v.attempt? caller = some attempt ∧ other ≠ caller := by
    rw [attempt?_leave]
    by_cases same : caller = other <;> simp [same, Ne.symm]
  cases moves with
  | joins building => exact attempt?_append.trans (by simp [building])
  | starts empty => exact attempt?_append.trans (by simp)
  | serves serving => simp [attempt?, serving]
  | ends | closes => simp [attempt?]
  | takes | orphans | clears | fails => exact (stays _).trans (by simp)

/-! ### Each step moves -/

theorem enter_moves (v : Visits σ) : Moves v .enter v.enter := by
  unfold enter ServerCell.enter
  cases state : v.cell.state with
  | empty => exact .starts state
  | building attempt => exact .joins state
  | serving server => exact .serves state

variable [DecidableEq σ]

theorem isCurrent_ok {v : Visits σ} {attempt : Nat} {server : σ}
    (ended : v.result? attempt = some (.ok server)) :
    v.cell.isCurrent attempt (.ok server) = true ↔ v.IsWanted attempt := by
  unfold ServerCell.isCurrent IsWanted
  cases state : v.cell.state with
  | empty => simp
  | building running => simp
  | serving served =>
    simp only [beq_iff_eq, reduceCtorEq, CellState.serving.injEq, false_or, ended,
      Option.some.injEq, Except.ok.injEq, exists_eq_left']
    exact eq_comm

theorem isCurrent_error {v : Visits σ} {attempt : Nat} {source : Fault} :
    v.cell.isCurrent attempt (.error source) = true ↔ v.cell.state = .building attempt := by
  unfold ServerCell.isCurrent
  cases state : v.cell.state <;> simp

theorem resume_moves {v : Visits σ} {caller attempt : Nat} {result : Except Fault σ}
    (waits : v.attempt? caller = some attempt) (ended : v.result? attempt = some result) :
    Moves v (.resume caller) (v.resume caller) := by
  simp only [resume, waits, ended, ServerCell.resume]
  cases result with
  | ok server =>
    by_cases wanted : v.IsWanted attempt
    · have current := (isCurrent_ok ended).mpr wanted
      simp only [current, if_true]
      exact .takes waits ended wanted
    · have passed : v.cell.isCurrent attempt (.ok server) = false :=
        Bool.eq_false_iff.mpr fun current => wanted ((isCurrent_ok ended).mp current)
      simp only [passed]
      exact .orphans waits ended wanted
  | error source =>
    by_cases building : v.cell.state = .building attempt
    · have current : v.cell.isCurrent attempt (.error source) = true :=
        isCurrent_error.mpr building
      simp only [current, if_true]
      exact .clears waits ended building
    · have passed : v.cell.isCurrent attempt (.error source) = false :=
        Bool.eq_false_iff.mpr fun current => building (isCurrent_error.mp current)
      simp only [passed]
      exact .fails waits ended building

theorem step_moves {v : Visits σ} {event : Event σ} (possible : v.Possible event) :
    Moves v event (v.step event) := by
  cases event with
  | enter => exact enter_moves v
  | finish attempt result =>
    obtain ⟨started, running, fresh⟩ := possible
    simp only [step, finish, running]
    exact .ends started running fresh
  | resume caller =>
    obtain ⟨attempt, result, waits, ended⟩ := possible
    exact resume_moves waits ended
  | close => exact .closes

/-! ### Lists of steps -/

/-- Whether each step can come when its turn is. -/
def Admits (v : Visits σ) : List (Event σ) → Prop
  | [] => True
  | event :: rest => v.Possible event ∧ (v.step event).Admits rest

theorem run_append (v : Visits σ) (first rest : List (Event σ)) :
    v.run (first ++ rest) = (v.run first).run rest :=
  List.foldl_append

theorem admits_append {v : Visits σ} {first rest : List (Event σ)} :
    v.Admits (first ++ rest) ↔ v.Admits first ∧ (v.run first).Admits rest := by
  induction first generalizing v with
  | nil => simp [Admits, run]
  | cons event first ih =>
    simp only [List.cons_append, Admits, ih, and_assoc]
    exact Iff.rfl

/-- What each of the steps keeps holds after them all. -/
theorem run_keeps {P : Visits σ → Prop} {v : Visits σ} {events : List (Event σ)}
    (keeps : ∀ {v w event}, event ∈ events → P v → Moves v event w → P w) (start : P v)
    (admitted : v.Admits events) : P (v.run events) := by
  induction events generalizing v with
  | nil => exact start
  | cons event rest ih =>
    exact ih (fun later => keeps (List.mem_cons_of_mem _ later))
      (keeps List.mem_cons_self start (step_moves admitted.1)) admitted.2

/-- Where a property is lost, one step loses it. -/
theorem run_loses {P : Visits σ → Prop} {v : Visits σ} {events : List (Event σ)}
    (start : P v) (lost : ¬ P (v.run events)) :
    ∃ before event after, events = before ++ event :: after ∧
      P (v.run before) ∧ ¬ P ((v.run before).step event) := by
  induction events generalizing v with
  | nil => exact (lost start).elim
  | cons event rest ih =>
    by_cases kept : P (v.step event)
    · obtain ⟨before, event', after, split, holds, fails⟩ := ih kept lost
      exact ⟨event :: before, event', after, by rw [split]; rfl, holds, fails⟩
    · exact ⟨[], event, rest, rfl, start, kept⟩

end OpcUa.Visits
