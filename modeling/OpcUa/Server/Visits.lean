import OpcUa.Server.Cell

/-!
# Visits to a cell

A cell together with those who come to it, who are numbered in the order of their coming. Callers
enter, attempts finish, callers who waited for them go on, and the cell is closed, in any order in
which each step is possible.
-/

namespace OpcUa

/-- A caller who waits for an attempt. -/
structure Waiter where
  caller : Nat
  attempt : Nat
  deriving DecidableEq, Repr

structure Visits (σ : Type) where
  cell : ServerCell σ := {}
  /-- How many callers have come. -/
  callers : Nat := 0
  /-- The attempts that callers have started, the latest first. -/
  builds : List Nat := []
  /-- The results of the attempts that have finished. -/
  results : List (Nat × Except Fault σ) := []
  waiting : List Waiter := []
  /-- What callers got, the latest first. -/
  answers : List (Nat × Ending σ) := []
  /-- The servers that have been closed, the latest first. -/
  closed : List σ := []

namespace Visits

variable {σ : Type}

/-- What an attempt gave, once it has finished. -/
def result? (v : Visits σ) (attempt : Nat) : Option (Except Fault σ) :=
  (v.results.find? (·.1 == attempt)).map (·.2)

/-- The attempt that a caller waits for. -/
def attempt? (v : Visits σ) (caller : Nat) : Option Nat :=
  (v.waiting.find? (·.caller == caller)).map Waiter.attempt

/-- What a caller got. -/
def answer? (v : Visits σ) (caller : Nat) : Option (Ending σ) :=
  (v.answers.find? (·.1 == caller)).map (·.2)

/-- The next caller asks for the server. -/
def enter (v : Visits σ) : Visits σ :=
  let next := { v with callers := v.callers + 1 }
  match v.cell.enter with
  | (cell, .served server) =>
    { next with cell, answers := (v.callers, .served server) :: v.answers }
  | (cell, .starts attempt) =>
    { next with
      cell
      builds := attempt :: v.builds
      waiting := v.waiting ++ [⟨v.callers, attempt⟩] }
  | (cell, .joins attempt) =>
    { next with cell, waiting := v.waiting ++ [⟨v.callers, attempt⟩] }

/-- An attempt ends, once. -/
def finish (v : Visits σ) (attempt : Nat) (result : Except Fault σ) : Visits σ :=
  match v.result? attempt with
  | some _ => v
  | none => { v with results := (attempt, result) :: v.results }

/-- A caller waits no longer. -/
def leave (v : Visits σ) (caller : Nat) : Visits σ :=
  { v with waiting := v.waiting.filter (·.caller != caller) }

variable [DecidableEq σ]

/-- What the ending leaves to be closed. -/
def orphans : Ending σ → List σ
  | .abandoned server => [server]
  | _ => []

/-- A caller goes on with the result of the attempt, if there is one. -/
def resume (v : Visits σ) (caller : Nat) : Visits σ :=
  match v.attempt? caller with
  | none => v
  | some attempt =>
    match v.result? attempt with
    | none => v
    | some result =>
      let (cell, ending) := v.cell.resume attempt result
      { v.leave caller with
        cell
        answers := (caller, ending) :: v.answers
        closed := orphans ending ++ v.closed }

def close (v : Visits σ) : Visits σ :=
  let (cell, server) := v.cell.close
  { v with cell, closed := server.toList ++ v.closed }

/-! ### Runs -/

inductive Event (σ : Type) where
  | enter
  | finish (attempt : Nat) (result : Except Fault σ)
  | resume (caller : Nat)
  | close

def step (v : Visits σ) : Event σ → Visits σ
  | .enter => v.enter
  | .finish attempt result => v.finish attempt result
  | .resume caller => v.resume caller
  | .close => v.close

def run (v : Visits σ) (events : List (Event σ)) : Visits σ :=
  events.foldl step v

end Visits

end OpcUa
