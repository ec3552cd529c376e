import OpcUa.Json.Printer
import OpcUa.Json.Reader
import OpcUa.Service.GetEndpoints

/-!
# Messages

A message is a request or a response under an id, which a response takes from its request. In JSON
its members lie in one object: the id, a tag for the type, a tag for the method and those of the
service. A tag is its name or its place among the names.
-/

namespace OpcUa

namespace Json

/-- The alternative that a tag chooses. -/
def tag? {α : Type} (all : List (String × α)) : Json → Option α
  | .text name => named? all name
  | .int n => if n < 0 then none else (all[n.toNat]?).map (·.2)
  | _ => none

/-- The alternative that the tag `name` chooses and what is left without the tag, which is the first
item of a list. -/
def tagged? {α : Type} (name : String) (all : List (String × α)) : Json → Option (α × Json)
  | .object members =>
    match single? name members with
    | some (some value) =>
      (tag? all value).map fun a => (a, .object (members.filter (·.1 != name)))
    | _ => none
  | .list (value :: rest) => (tag? all value).map fun a => (a, .list rest)
  | _ => none

end Json

inductive Request where
  | getEndpoints (request : GetEndpointsRequest)
  | ping
  deriving DecidableEq, Repr

inductive Response where
  | getEndpoints (response : GetEndpointsResponse)
  | pong
  | error (code : StatusCode) (message : String)
  deriving DecidableEq, Repr

inductive MessageContent where
  | request (request : Request)
  | response (response : Response)
  deriving DecidableEq, Repr

structure Message where
  id : String
  content : MessageContent
  deriving DecidableEq, Repr

namespace Request

inductive Method where
  | getEndpoints
  | ping

def methods : List (String × Method) := [("get_endpoints", .getEndpoints), ("ping", .ping)]

def members : Request → List (String × Json)
  | .getEndpoints request => ("method", .text "get_endpoints") :: request.toJson.membersOrNone
  | .ping => [("method", .text "ping")]

def ofJson? (now : Instant) (value : Json) : Option Request := do
  match ← value.tagged? "method" methods with
  | (.getEndpoints, rest) => (GetEndpointsRequest.ofJson? now rest).map .getEndpoints
  | (.ping, _) => some .ping

end Request

namespace Response

inductive Method where
  | getEndpoints
  | pong
  | error

def methods : List (String × Method) :=
  [("get_endpoints_result", .getEndpoints), ("pong", .pong), ("error", .error)]

def members : Response → List (String × Json)
  | .getEndpoints response =>
    ("method", .text "get_endpoints_result") :: response.toJson.membersOrNone
  | .pong => [("method", .text "pong")]
  | .error code message =>
    [("method", .text "error"), ("code", code.toJson), ("message", .text message)]

def toJson (r : Response) : Json :=
  .object r.members

def ofJson? (now : Instant) (value : Json) : Option Response := do
  match ← value.tagged? "method" methods with
  | (.getEndpoints, rest) => (GetEndpointsResponse.ofJson? true now rest).map .getEndpoints
  | (.pong, _) => some .pong
  | (.error, rest) =>
    let [code, message] ← rest.fields? ["code", "message"] | none
    return .error (← Json.required StatusCode.ofJson? code) (← Json.required Json.asText? message)

instance : JsonForm Response where
  toJson := toJson
  ofJson? := ofJson?

end Response

namespace MessageContent

inductive Direction where
  | request
  | response

def directions : List (String × Direction) := [("request", .request), ("response", .response)]

def members : MessageContent → List (String × Json)
  | .request r => ("type", .text "request") :: r.members
  | .response r => ("type", .text "response") :: r.members

def ofJson? (now : Instant) (value : Json) : Option MessageContent := do
  match ← value.tagged? "type" directions with
  | (.request, rest) => (Request.ofJson? now rest).map .request
  | (.response, rest) => (Response.ofJson? now rest).map .response

end MessageContent

namespace Message

/-- A response to the message. -/
def reply (m : Message) (response : Response) : Message :=
  ⟨m.id, .response response⟩

def toJson (m : Message) : Json :=
  .object (("id", .text m.id) :: m.content.members)

/-- Reads an object in which all members but the id can be kept. -/
def ofJson? (now : Instant) : Json → Option Message
  | .object members => do
    let content := members.filter (·.1 != "id")
    if !content.all fun (_, value) => value.isKept (Json.nestingLimit - 1) then none
    let id ← Json.required Json.asText? (← Json.single? "id" members)
    return ⟨id, ← MessageContent.ofJson? now (.object content)⟩
  | _ => none

/-- The message in JSON, as a frame carries it. -/
def bytes (m : Message) : List UInt8 :=
  m.toJson.bytes

def parse? (now : Instant) (body : List UInt8) : Option Message :=
  (Json.parse? body).bind (ofJson? now)

instance : JsonForm Message where
  toJson := toJson
  ofJson? now := ofJson? now

end Message

end OpcUa
