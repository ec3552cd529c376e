import OpcUa.Endpoint.Description
import OpcUa.Service.Header

/-!
# The GetEndpoints service

A client asks a server for its endpoints, of all transport profiles or of those it names.
-/

namespace OpcUa

structure GetEndpointsRequest where
  requestHeader : RequestHeader
  endpointUrl : String := ""
  localeIds : List String := []
  /-- When empty, every profile. -/
  profileUris : List String := []
  deriving DecidableEq, Repr

namespace GetEndpointsRequest

/-- Whether the request asks for endpoints of that transport profile. -/
def wants (r : GetEndpointsRequest) (e : EndpointDescription) : Bool :=
  r.profileUris.isEmpty || r.profileUris.contains e.transportProfileUri

/-- The endpoints that the request asks for. -/
def select (r : GetEndpointsRequest) (endpoints : List EndpointDescription) :
    List EndpointDescription :=
  endpoints.filter r.wants

def toJson (r : GetEndpointsRequest) : Json :=
  .object [
    ("request_header", r.requestHeader.toJson),
    ("endpoint_url", .text r.endpointUrl),
    ("locale_ids", .ofStrings r.localeIds),
    ("profile_uris", .ofStrings r.profileUris)]

def ofJson? (now : Instant) (value : Json) : Option GetEndpointsRequest := do
  let [header, url, locales, profiles] ← value.fields?
    ["request_header", "endpoint_url", "locale_ids", "profile_uris"] | none
  return {
    requestHeader := ← Json.orElse { timestamp := now } (RequestHeader.ofJson? now) header
    endpointUrl := ← Json.orElse "" Json.asText? url
    localeIds := ← Json.orElse [] Json.asTexts? locales
    profileUris := ← Json.orElse [] Json.asTexts? profiles }

instance : JsonForm GetEndpointsRequest where
  toJson := toJson
  ofJson? now := ofJson? now

end GetEndpointsRequest

structure GetEndpointsResponse where
  responseHeader : ResponseHeader
  endpoints : List EndpointDescription := []
  deriving DecidableEq, Repr

namespace GetEndpointsResponse

def toJson (r : GetEndpointsResponse) : Json :=
  .object [
    ("response_header", r.responseHeader.toJson),
    ("endpoints", .list (r.endpoints.map EndpointDescription.toJson))]

def ofJson? (kept : Bool) (now : Instant) (value : Json) : Option GetEndpointsResponse := do
  let [header, endpoints] ← value.fields? ["response_header", "endpoints"] | none
  return {
    responseHeader := ← Json.orElse { timestamp := now } (ResponseHeader.ofJson? now) header
    endpoints := ← Json.orElse [] (Json.asList? (EndpointDescription.ofJson? kept)) endpoints }

instance : JsonForm GetEndpointsResponse where
  toJson := toJson
  ofJson? now := ofJson? false now

end GetEndpointsResponse

end OpcUa
