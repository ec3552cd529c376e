import OpcUa.Security.Transport
import OpcUa.Server.Visits
import OpcUa.Text.Cut

/-!
# Server pairs

The servers of an application, one for each transport. A caller names a transport by a URL or its
scheme.
-/

namespace OpcUa

structure ServerPair (σ : Type) where
  tcp : Visits σ := {}
  https : Visits σ := {}

namespace ServerPair

variable {σ : Type}

def visits (p : ServerPair σ) : TransportKind → Visits σ
  | .opcTcp => p.tcp
  | .https => p.https

def modify (p : ServerPair σ) (kind : TransportKind) (change : Visits σ → Visits σ) :
    ServerPair σ :=
  match kind with
  | .opcTcp => { p with tcp := change p.tcp }
  | .https => { p with https := change p.https }

/-- The transport that a scheme stands for. -/
def kindFor (scheme : String) : Except Fault TransportKind :=
  match TransportKind.ofScheme? scheme with
  | some kind => .ok kind
  | none => .error (.serverMissing scheme)

/-- The transport that a URL names by its scheme. -/
def kindForUrl (url : String) : Except Fault TransportKind :=
  match Text.cutAt? "://".toList url.toList with
  | some (scheme, _) => kindFor (String.ofList scheme)
  | none => .error (.schemeMissing url)

variable [DecidableEq σ]

def close (p : ServerPair σ) : ServerPair σ where
  tcp := p.tcp.close
  https := p.https.close

/-! ### Runs -/

inductive Event (σ : Type) where
  | call (scheme : String)
  | callUrl (url : String)
  | finish (kind : TransportKind) (attempt : Nat) (result : Except Fault σ)
  | resume (kind : TransportKind) (caller : Nat)
  | close

/-- A caller asks for the server of a transport, if it is one. -/
def callFor (p : ServerPair σ) : Except Fault TransportKind → ServerPair σ
  | .ok kind => p.modify kind Visits.enter
  | .error _ => p

def step (p : ServerPair σ) : Event σ → ServerPair σ
  | .call scheme => p.callFor (kindFor scheme)
  | .callUrl url => p.callFor (kindForUrl url)
  | .finish kind attempt result => p.modify kind (·.finish attempt result)
  | .resume kind caller => p.modify kind (·.resume caller)
  | .close => p.close

def run (p : ServerPair σ) (events : List (Event σ)) : ServerPair σ :=
  events.foldl step p

end ServerPair

end OpcUa
