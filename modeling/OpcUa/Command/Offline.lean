import OpcUa.Command.Run

/-!
# Offline

A machine in memory for commands: its files are a disk, and its network reaches nobody.
-/

namespace OpcUa.Offline

/-- The port that is in use when a listener asks for any. -/
def freePort : UInt16 := 49152

/-- An address that is listened at. -/
def bound (address : SocketAddress) : SocketAddress :=
  if address.port = 0 then { address with port := freePort } else address

def bind (address : SocketAddress) : Except String SocketAddress :=
  .ok (bound address)

/-- Why no connection can be made. -/
def noRoute : String :=
  "Network is unreachable (os error 101)"

instance : Network (StateM Disk) where
  bind address := pure (bind address)
  resolve text :=
    pure <| match SocketAddress.ofText? text with
      | some address => .ok (some address)
      | none => .error "invalid socket address"
  exchange _ _ := pure (.error noRoute)

/-- The lines that a command prints, how it ends, and the disk after it. -/
def run (e : Environment) (i : Invocation) (d : Disk) :
    List String × Except String (List Listener) × Disk :=
  let command : Console (StateM Disk) (List Listener) := Command.run e i
  let ((lines, result), disk) := command.outcome.run d
  (lines, result, disk)

end OpcUa.Offline
