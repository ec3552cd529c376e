import OpcUa.Proofs.Application.Runs
import OpcUa.Proofs.Application.SnapshotList

/-!
# The identities of a run

A ledger keeps every identity that was ever added, and whether it remains. An application has those
that remain, in the order of the ledger, and whoever looked at them keeps what was there to see.
-/

namespace OpcUa.Application

variable {a : Application} {identity gone : Identity} {events : List Event}

/-! ### The ledger -/

structure Entry where
  identity : Identity
  remains : Bool

/-- Of the identities that are the same as `gone` and remain, the earliest does so no more. -/
def struck (gone : Identity) : List Entry → List Entry
  | [] => []
  | entry :: later =>
    if entry.remains && entry.identity == gone then { entry with remains := false } :: later
    else entry :: struck gone later

def recorded (entries : List Entry) : Event → List Entry
  | .addIdentity identity => entries ++ [{ identity, remains := true }]
  | .removeIdentity gone => struck gone entries
  | .setSecurity _ | .overlaySecurity _ => entries

def present (entries : List Entry) : List Identity :=
  (entries.filter Entry.remains).map Entry.identity

variable {entries : List Entry}

/-- What is done by those who share an application: a change, a look at the identities, and giving
back the snapshot that was taken after `n` others. -/
inductive Use where
  | change (event : Event)
  | look
  | letGo (n : Nat)

namespace Use

def change? : Use → Option Event
  | .change e => some e
  | .look | .letGo _ => none

end Use

def changes (uses : List Use) : List Event :=
  uses.filterMap Use.change?

def Event.write (s : SnapshotList Identity) : Event → SnapshotList Identity
  | .addIdentity identity => s.push identity
  | .removeIdentity gone => (s.removeFirst (· == gone)).1
  | .setSecurity _ | .overlaySecurity _ => s

def Use.apply (s : Shared Identity) : Use → Shared Identity
  | .change e => { s with list := e.write s.list }
  | .look => s.look
  | .letGo n => s.letGo n

/-- The identities of an application and the snapshots of them after the uses. -/
def shared (a : Application) (uses : List Use) : Shared Identity :=
  uses.foldl Use.apply (.ofList a.identities)

variable {s : Shared Identity} {n : Nat}

end OpcUa.Application
