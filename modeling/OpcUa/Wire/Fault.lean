import OpcUa.Fault

/-!
# Wire faults

What can end an exchange of messages.
-/

namespace OpcUa

inductive WireFault where
  | io (reason : String)
  /-- A frame holds no message. -/
  | unreadable
  | connectionClosed
  | messageTooLarge (size max : UInt32)
  /-- The peer answers with an error of its own. -/
  | remote (code : StatusCode) (message : String)
  | unexpectedResponse (id : String)
  | of (fault : Fault)
  deriving DecidableEq, Repr

namespace WireFault

def name : WireFault → String
  | .io _ => "Io"
  | .unreadable => "Json"
  | .connectionClosed => "ConnectionClosed"
  | .messageTooLarge .. => "MessageTooLarge"
  | .remote .. => "Remote"
  | .unexpectedResponse _ => "UnexpectedResponse"
  | .of fault => fault.kind.name

def notice : WireFault → Notice
  | .io reason => ⟨["IO error"], reason⟩
  | .unreadable => ⟨["JSON error"], "not a message"⟩
  | .connectionClosed => ⟨["Connection closed"], none⟩
  | .messageTooLarge size max =>
    ⟨[s!"Message too large: {size.toNat} bytes (max {max.toNat})"], none⟩
  | .remote code message => ⟨[s!"Remote error {code.text}", message], none⟩
  | .unexpectedResponse id => ⟨[s!"Unexpected response to request {id}"], none⟩
  | .of fault => fault.notice

def message (f : WireFault) : String :=
  f.notice.text

def status : WireFault → StatusCode
  | .messageTooLarge .. => .badTcpMessageTooLarge
  | .unreadable => .badDecodingError
  | .remote code _ => code
  | .of fault => fault.status
  | .io _ | .connectionClosed | .unexpectedResponse _ => .badCommunicationError

/-- What lies beneath the fault. -/
def sources : WireFault → List String
  | .io reason => [reason]
  | .unreadable => ["not a message"]
  | .of fault => fault.sources
  | _ => []

end WireFault

end OpcUa
