import OpcUa.Server.Context
import OpcUa.Wire.Frame

/-!
# Sessions

A connection to a server is a stream of bytes that the client sends and one that the server answers
with. The server answers message by message until it meets one that it cannot read or whose answer
is too large, or until the stream ends.
-/

namespace OpcUa

/-- What a server answers from. -/
structure Service where
  endpoints : List EndpointDescription
  maxMessageSize : UInt32

/-- What a listener serves. -/
def Listener.service (l : Listener) : Service where
  endpoints := l.endpoints
  maxMessageSize := l.maxMessageSize

namespace Service

def response (s : Service) (now : Instant) : MessageContent → Response
  | .request (.getEndpoints request) => .getEndpoints {
      responseHeader := .answering now request.requestHeader .good
      endpoints := request.select s.endpoints }
  | .request .ping => .pong
  | .response _ => .error .badServiceUnsupported "Responses are not accepted by the server"

def answer (s : Service) (now : Instant) (m : Message) : Message :=
  m.reply (s.response now m.content)

/-- The bytes that the server sends on a connection, and the fault that ends it unless the client
does. The server looks at the clock once for each message. -/
def serve (s : Service) (clock : Nat → Instant) (turn : Nat) (input : List UInt8) :
    List UInt8 × Option WireFault :=
  match _success : Message.read s.maxMessageSize (clock turn) input with
  | (.ok m, rest) =>
    match (s.answer (clock turn) m).write s.maxMessageSize with
    | .ok frame =>
      let (sent, fault) := serve s clock (turn + 1) rest
      (frame ++ sent, fault)
    | .error fault => ([], some fault)
  | (.error .connectionClosed, _) => ([], none)
  | (.error fault, _) => ([], some fault)
termination_by input.length
decreasing_by exact Message.length_of_read _success

end Service

/-! ### Clients -/

namespace Discovery

/-- Clients keep to the default limit in both directions. -/
def maxMessageSize : UInt32 :=
  ({} : EndpointConfiguration).maxMessageSize

/-- The bytes that ask for endpoints. -/
def question (id : String) (request : GetEndpointsRequest) : Except WireFault (List UInt8) :=
  Message.write maxMessageSize ⟨id, .request (.getEndpoints request)⟩

/-- What the bytes that come back for it mean. -/
def outcome (id : String) (now : Instant) (received : List UInt8) :
    Except WireFault GetEndpointsResponse :=
  match (Message.read maxMessageSize now received).1 with
  | .error fault => .error fault
  | .ok reply =>
    if reply.id = id then
      match reply.content with
      | .response (.getEndpoints response) => .ok response
      | .response (.error code message) => .error (.remote code message)
      | _ => .error (.unexpectedResponse id)
    else .error (.unexpectedResponse id)

end Discovery

/-- The other end of a connection, as a client finds it. -/
inductive Link where
  | refused (reason : String)
  /-- The bytes that come back for those that are sent. -/
  | peer (answer : List UInt8 → List UInt8)

/-- Asks a peer for its endpoints, in one request under the given id. -/
def discoverEndpoints (link : Link) (now : Instant) (id : String) (request : GetEndpointsRequest) :
    Except WireFault GetEndpointsResponse :=
  match link with
  | .refused reason => .error (.io reason)
  | .peer answer =>
    match Discovery.question id request with
    | .error fault => .error fault
    | .ok sent => Discovery.outcome id now (answer sent)

end OpcUa
