import OpcUa.Endpoint.Configuration
import OpcUa.Endpoint.SoftwareCertificate
import OpcUa.Node.Attributes
import OpcUa.Service.Browse
import OpcUa.Service.Discovery
import OpcUa.Service.GetEndpoints
import OpcUa.Structure.Family

/-!
# Standard structures

The structure types of the base namespace.
-/

namespace OpcUa

inductive StandardKind where
  | nodeAttributes
  | viewAttributes
  | methodAttributes
  | referenceTypeAttributes
  | userTokenPolicy
  | applicationDescription
  | endpointDescription
  | endpointConfiguration
  | signedSoftwareCertificate
  | requestHeader
  | responseHeader
  | getEndpointsRequest
  | getEndpointsResponse
  | browseDescription
  | discoveryConfiguration
  | mdnsDiscoveryConfiguration
  deriving DecidableEq, Repr

namespace StandardKind

def all : List StandardKind := [
  .nodeAttributes, .viewAttributes, .methodAttributes, .referenceTypeAttributes,
  .userTokenPolicy, .applicationDescription, .endpointDescription, .endpointConfiguration,
  .signedSoftwareCertificate, .requestHeader, .responseHeader, .getEndpointsRequest,
  .getEndpointsResponse, .browseDescription, .discoveryConfiguration,
  .mdnsDiscoveryConfiguration]

abbrev Value : StandardKind → Type
  | nodeAttributes => NodeAttributes
  | viewAttributes => ViewAttributes
  | methodAttributes => MethodAttributes
  | referenceTypeAttributes => ReferenceTypeAttributes
  | userTokenPolicy => UserTokenPolicy
  | applicationDescription => ApplicationDescription
  | endpointDescription => EndpointDescription
  | endpointConfiguration => EndpointConfiguration
  | signedSoftwareCertificate => SignedSoftwareCertificate
  | requestHeader => RequestHeader
  | responseHeader => ResponseHeader
  | getEndpointsRequest => GetEndpointsRequest
  | getEndpointsResponse => GetEndpointsResponse
  | browseDescription => BrowseDescription
  | discoveryConfiguration => DiscoveryConfiguration
  | mdnsDiscoveryConfiguration => MdnsDiscoveryConfiguration

def descriptor : StandardKind → TypeDescriptor
  | nodeAttributes =>
    { name := "NodeAttributes", dataType := 349, binaryEncoding := 351, xmlEncoding := 350 }
  | viewAttributes =>
    { name := "ViewAttributes", dataType := 373, binaryEncoding := 375, xmlEncoding := 374,
      supertype := some 349 }
  | methodAttributes =>
    { name := "MethodAttributes", dataType := 358, binaryEncoding := 360, xmlEncoding := 359,
      supertype := some 349 }
  | referenceTypeAttributes =>
    { name := "ReferenceTypeAttributes", dataType := 367, binaryEncoding := 369,
      xmlEncoding := 368, supertype := some 349 }
  | userTokenPolicy =>
    { name := "UserTokenPolicy", dataType := 304, binaryEncoding := 306, xmlEncoding := 305 }
  | applicationDescription =>
    { name := "ApplicationDescription", dataType := 308, binaryEncoding := 310,
      xmlEncoding := 309 }
  | endpointDescription =>
    { name := "EndpointDescription", dataType := 312, binaryEncoding := 314, xmlEncoding := 313 }
  | endpointConfiguration =>
    { name := "EndpointConfiguration", dataType := 331, binaryEncoding := 333,
      xmlEncoding := 332 }
  | signedSoftwareCertificate =>
    { name := "SignedSoftwareCertificate", dataType := 344, binaryEncoding := 346,
      xmlEncoding := 345 }
  | requestHeader =>
    { name := "RequestHeader", dataType := 389, binaryEncoding := 391, xmlEncoding := 390 }
  | responseHeader =>
    { name := "ResponseHeader", dataType := 392, binaryEncoding := 394, xmlEncoding := 393 }
  | getEndpointsRequest =>
    { name := "GetEndpointsRequest", dataType := 426, binaryEncoding := 428, xmlEncoding := 427 }
  | getEndpointsResponse =>
    { name := "GetEndpointsResponse", dataType := 429, binaryEncoding := 431,
      xmlEncoding := 430 }
  | browseDescription =>
    { name := "BrowseDescription", dataType := 514, binaryEncoding := 516, xmlEncoding := 515 }
  | discoveryConfiguration =>
    { name := "DiscoveryConfiguration", dataType := 12890, binaryEncoding := 12900,
      xmlEncoding := 12896 }
  | mdnsDiscoveryConfiguration =>
    { name := "MdnsDiscoveryConfiguration", dataType := 12891, binaryEncoding := 12901,
      xmlEncoding := 12897, supertype := some 12890 }

def toJson : (k : StandardKind) → k.Value → Json
  | nodeAttributes => NodeAttributes.toJson
  | viewAttributes => ViewAttributes.toJson
  | methodAttributes => MethodAttributes.toJson
  | referenceTypeAttributes => ReferenceTypeAttributes.toJson
  | userTokenPolicy => UserTokenPolicy.toJson
  | applicationDescription => ApplicationDescription.toJson
  | endpointDescription => EndpointDescription.toJson
  | endpointConfiguration => EndpointConfiguration.toJson
  | signedSoftwareCertificate => SignedSoftwareCertificate.toJson
  | requestHeader => RequestHeader.toJson
  | responseHeader => ResponseHeader.toJson
  | getEndpointsRequest => GetEndpointsRequest.toJson
  | getEndpointsResponse => GetEndpointsResponse.toJson
  | browseDescription => BrowseDescription.toJson
  | discoveryConfiguration => DiscoveryConfiguration.toJson
  | mdnsDiscoveryConfiguration => MdnsDiscoveryConfiguration.toJson

def ofJson? (now : Instant) : (k : StandardKind) → Json → Option k.Value
  | nodeAttributes => NodeAttributes.ofJson?
  | viewAttributes => ViewAttributes.ofJson?
  | methodAttributes => MethodAttributes.ofJson?
  | referenceTypeAttributes => ReferenceTypeAttributes.ofJson?
  | userTokenPolicy => UserTokenPolicy.ofJson? false
  | applicationDescription => ApplicationDescription.ofJson? false
  | endpointDescription => EndpointDescription.ofJson? false
  | endpointConfiguration => EndpointConfiguration.ofJson?
  | signedSoftwareCertificate => SignedSoftwareCertificate.ofJson?
  | requestHeader => RequestHeader.ofJson? now
  | responseHeader => ResponseHeader.ofJson? now
  | getEndpointsRequest => GetEndpointsRequest.ofJson? now
  | getEndpointsResponse => GetEndpointsResponse.ofJson? false now
  | browseDescription => BrowseDescription.ofJson?
  | discoveryConfiguration => DiscoveryConfiguration.ofJson?
  | mdnsDiscoveryConfiguration => MdnsDiscoveryConfiguration.ofJson?

def decEq (k : StandardKind) : DecidableEq k.Value := by
  cases k <;> exact inferInstance

instance : StructureFamily StandardKind where
  Value := Value
  descriptor := descriptor
  toJson := toJson
  ofJson? := ofJson?
  decEq := decEq

end StandardKind

end OpcUa
