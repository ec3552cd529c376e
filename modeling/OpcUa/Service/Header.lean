import OpcUa.NodeId.Basic
import OpcUa.Time.Rfc3339

/-!
# Service headers

Every request and every response starts with a header. A header that names no time stamp is read as
of the present, which the reader is told.
-/

namespace OpcUa

namespace Instant

def toJson (t : Instant) : Json :=
  .text t.text

def ofJson? : Json → Option Instant
  | .text t => ofText? t
  | _ => none

instance : JsonForm Instant where
  toJson := toJson
  ofJson? _ := ofJson?

end Instant

namespace StatusCode

def toJson (s : StatusCode) : Json :=
  .ofNat s.code.toNat

def ofJson? (value : Json) : Option StatusCode :=
  value.asUInt32?.map StatusCode.mk

instance : JsonForm StatusCode where
  toJson := toJson
  ofJson? _ := ofJson?

instance : ToString StatusCode :=
  ⟨text⟩

end StatusCode

structure RequestHeader where
  authenticationToken : NodeId := .null
  timestamp : Instant
  requestHandle : UInt32 := 0
  returnDiagnostics : UInt32 := 0
  auditEntryId : Option String := none
  /-- In milliseconds; zero gives no hint. -/
  timeoutHint : UInt32 := 0
  deriving DecidableEq, Repr

namespace RequestHeader

def toJson (h : RequestHeader) : Json :=
  .object ([
    ("authentication_token", h.authenticationToken.toJson),
    ("timestamp", h.timestamp.toJson),
    ("request_handle", .ofNat h.requestHandle.toNat),
    ("return_diagnostics", .ofNat h.returnDiagnostics.toNat)] ++
    Json.present "audit_entry_id" .text h.auditEntryId ++
    [("timeout_hint", .ofNat h.timeoutHint.toNat)])

def ofJson? (now : Instant) (value : Json) : Option RequestHeader := do
  let [token, timestamp, handle, diagnostics, audit, timeout] ← value.fields? [
    "authentication_token", "timestamp", "request_handle", "return_diagnostics",
    "audit_entry_id", "timeout_hint"] | none
  return {
    authenticationToken := ← Json.orElse .null NodeId.ofJson? token
    timestamp := ← Json.orElse now Instant.ofJson? timestamp
    requestHandle := ← Json.orElse 0 Json.asUInt32? handle
    returnDiagnostics := ← Json.orElse 0 Json.asUInt32? diagnostics
    auditEntryId := ← Json.optional Json.asText? audit
    timeoutHint := ← Json.orElse 0 Json.asUInt32? timeout }

instance : JsonForm RequestHeader where
  toJson := toJson
  ofJson? now := ofJson? now

end RequestHeader

structure ResponseHeader where
  timestamp : Instant
  requestHandle : UInt32 := 0
  serviceResult : StatusCode := .good
  stringTable : List String := []
  deriving DecidableEq, Repr

namespace ResponseHeader

/-- The header of the answer to a request. -/
def answering (now : Instant) (request : RequestHeader) (result : StatusCode) :
    ResponseHeader where
  timestamp := now
  requestHandle := request.requestHandle
  serviceResult := result

def toJson (h : ResponseHeader) : Json :=
  .object [
    ("timestamp", h.timestamp.toJson),
    ("request_handle", .ofNat h.requestHandle.toNat),
    ("service_result", h.serviceResult.toJson),
    ("string_table", .ofStrings h.stringTable)]

def ofJson? (now : Instant) (value : Json) : Option ResponseHeader := do
  let [timestamp, handle, result, strings] ← value.fields?
    ["timestamp", "request_handle", "service_result", "string_table"] | none
  return {
    timestamp := ← Json.orElse now Instant.ofJson? timestamp
    requestHandle := ← Json.orElse 0 Json.asUInt32? handle
    serviceResult := ← Json.orElse .good StatusCode.ofJson? result
    stringTable := ← Json.orElse [] Json.asTexts? strings }

instance : JsonForm ResponseHeader where
  toJson := toJson
  ofJson? now := ofJson? now

end ResponseHeader

end OpcUa
