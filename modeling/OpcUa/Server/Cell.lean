import OpcUa.Fault

/-!
# Server cells

A cell builds its server once, for all callers who ask for it meanwhile. The first caller starts an
attempt, callers who come while it runs wait for it too, and all of them get what it gives. A
failure is not kept: the next caller starts over. Closing the cell abandons an attempt that runs.
-/

namespace OpcUa

inductive CellState (σ : Type) where
  | empty
  | building (attempt : Nat)
  | serving (server : σ)
  deriving DecidableEq, Repr

structure ServerCell (σ : Type) where
  state : CellState σ := .empty
  /-- What the next attempt is numbered; no number comes twice. -/
  nextAttempt : Nat := 0
  deriving DecidableEq, Repr

/-- What a caller finds. -/
inductive Entry (σ : Type) where
  | served (server : σ)
  /-- The caller has the server built, and waits. -/
  | starts (attempt : Nat)
  /-- Someone has the server built already, and the caller waits too. -/
  | joins (attempt : Nat)
  deriving DecidableEq, Repr

/-- What a caller who waited gets. -/
inductive Ending (σ : Type) where
  | served (server : σ)
  | failed (source : Fault)
  /-- The attempt was abandoned. The caller closes the server that it gave. -/
  | abandoned (server : σ)
  deriving DecidableEq, Repr

namespace ServerCell

variable {σ : Type}

/-- The server, once it has been built and until it is closed. -/
def server? (c : ServerCell σ) : Option σ :=
  match c.state with
  | .serving server => some server
  | _ => none

/-- A caller asks for the server. -/
def enter (c : ServerCell σ) : ServerCell σ × Entry σ :=
  match c.state with
  | .serving server => (c, .served server)
  | .building attempt => (c, .joins attempt)
  | .empty =>
    ({ state := .building c.nextAttempt, nextAttempt := c.nextAttempt + 1 },
      .starts c.nextAttempt)

variable [DecidableEq σ]

/-- Whether the result of the attempt is still wanted: nobody has taken it and the cell has not been
closed, or it has been taken and is in use. -/
def isCurrent (c : ServerCell σ) (attempt : Nat) (result : Except Fault σ) : Bool :=
  match c.state, result with
  | .building running, _ => running == attempt
  | .serving server, .ok built => server == built
  | _, _ => false

/-- A caller who waited for the attempt goes on with its result. -/
def resume (c : ServerCell σ) (attempt : Nat) (result : Except Fault σ) :
    ServerCell σ × Ending σ :=
  let current := c.isCurrent attempt result
  match result with
  | .ok server =>
    if current then ({ c with state := .serving server }, .served server)
    else (c, .abandoned server)
  | .error source => (if current then { c with state := .empty } else c, .failed source)

/-- Forgets the server, which is to be closed, or the attempt. -/
def close (c : ServerCell σ) : ServerCell σ × Option σ :=
  ({ c with state := .empty }, c.server?)

end ServerCell

end OpcUa
