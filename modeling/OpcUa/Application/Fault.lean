import OpcUa.Fault
import OpcUa.Security.Transport

/-!
# Application faults
-/

namespace OpcUa

/-- What is wrong with a configuration, before any of its files are read. -/
inductive ConfigFault where
  | locale (id : String) (cause : Fault)
  | tokenPolicy (kind : TransportKind) (id : String)
  /-- Known by its words alone. -/
  | reported (detail : String)
  deriving DecidableEq, Repr

def ConfigFault.detail : ConfigFault → String
  | .locale id cause => s!"locale '{id}': {cause.message}"
  | .tokenPolicy kind id => s!"{kind.scheme} transport: unknown user token policy '{id}'"
  | .reported detail => detail

inductive AppFault where
  | of (fault : Fault)
  /-- Everyone who waits for one attempt to build a server gets the same source. -/
  | serverConstruction (kind : TransportKind) (source : Fault)
  /-- The application was closed while it built the server. -/
  | closed (kind : TransportKind)
  | config (fault : ConfigFault)
  deriving DecidableEq, Repr

namespace AppFault

def name : AppFault → String
  | .of fault => fault.kind.name
  | .serverConstruction .. => "ServerConstruction"
  | .closed _ => "Closed"
  | .config _ => "Config"

def notice : AppFault → Notice
  | .of fault => fault.notice
  | .serverConstruction kind source =>
    { source.notice with
      said := s!"Failed to construct {kind.scheme} server" :: source.notice.said }
  | .closed kind =>
    ⟨[s!"Application closed while the {kind.scheme} server was being constructed"], none⟩
  | .config fault => ⟨["Invalid configuration", fault.detail], none⟩

def message (f : AppFault) : String :=
  f.notice.text

def status : AppFault → StatusCode
  | .of fault | .serverConstruction _ fault => fault.status
  | .closed _ => .badUnexpectedError
  | .config _ => .badConfigurationError

/-- What lies beneath the fault. -/
def sources : AppFault → List String
  | .of fault => fault.sources
  | .serverConstruction _ source => source.message :: source.sources
  | _ => []

end AppFault

end OpcUa
