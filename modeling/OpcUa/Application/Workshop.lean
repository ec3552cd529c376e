import OpcUa.Application.Basic
import OpcUa.Application.Fault
import OpcUa.Server.Pair

/-!
# Workshops

An application with the servers that it builds. An attempt to build one is commissioned with what
the server is made from at that moment, and commissions are numbered over both transports; the
server that comes of one has its number.
-/

namespace OpcUa

/-- What the ending means to the caller. -/
def Ending.reply {σ : Type} (kind : TransportKind) : Ending σ → Except AppFault σ
  | .served server => .ok server
  | .failed source => .error (.serverConstruction kind source)
  | .abandoned _ => .error (.closed kind)

/-- What a caller was told, once it has been. -/
def Visits.reply? {σ : Type} (kind : TransportKind) (v : Visits σ) (caller : Nat) :
    Option (Except AppFault σ) :=
  (v.answer? caller).map (Ending.reply kind)

structure Commission where
  kind : TransportKind
  /-- The number of the attempt in its cell. -/
  attempt : Nat
  context : ServerContext

structure Workshop where
  application : Application
  servers : ServerPair Nat := {}
  /-- In the order in which they were given. -/
  commissions : List Commission := []

namespace Workshop

/-- A caller asks for the server of a transport; gives the number of the caller there. -/
def call (w : Workshop) (kind : TransportKind) : Workshop × Nat :=
  let visits := w.servers.visits kind
  let started : List Commission :=
    match visits.cell.enter.2 with
    | .starts attempt => [⟨kind, attempt, w.application.serverContext kind⟩]
    | _ => []
  ({ w with
      servers := w.servers.modify kind Visits.enter
      commissions := w.commissions ++ started },
    visits.callers)

/-- What a caller got, once it has come. -/
def answer? (w : Workshop) (kind : TransportKind) (caller : Nat) : Option (Except AppFault Nat) :=
  (w.servers.visits kind).reply? kind caller

/-- A caller asks for the server of a transport, if it is one, and waits under a number; else the
caller is told at once what is wrong. -/
def request (w : Workshop) :
    Except Fault TransportKind → Workshop × Except AppFault (TransportKind × Nat)
  | .ok kind =>
    let (w, caller) := w.call kind
    (w, .ok (kind, caller))
  | .error fault => (w, .error (.of fault))

/-- Asks for the server of a URL scheme. -/
def serverFor (w : Workshop) (scheme : String) :
    Workshop × Except AppFault (TransportKind × Nat) :=
  w.request (ServerPair.kindFor scheme)

/-- Asks for the server of the scheme of a URL. -/
def serverForUrl (w : Workshop) (url : String) :
    Workshop × Except AppFault (TransportKind × Nat) :=
  w.request (ServerPair.kindForUrl url)

/-! ### Runs -/

def step (w : Workshop) : ServerPair.Event Nat → Workshop
  | .call scheme => (w.serverFor scheme).1
  | .callUrl url => (w.serverForUrl url).1
  | event => { w with servers := w.servers.step event }

def run (w : Workshop) (events : List (ServerPair.Event Nat)) : Workshop :=
  events.foldl step w

end Workshop

end OpcUa
