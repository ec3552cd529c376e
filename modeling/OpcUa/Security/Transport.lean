import OpcUa.Json.Form

/-!
# Transports

The two transports of an application and their engine settings.
-/

namespace OpcUa

inductive TransportKind where
  | opcTcp
  | https
  deriving DecidableEq, Repr

namespace TransportKind

def names : List (String × TransportKind) := [("opc_tcp", .opcTcp), ("https", .https)]

def name : TransportKind → String
  | .opcTcp => "opc_tcp"
  | .https => "https"

/-- The name of the constructor in a record's debug form. -/
def debugText : TransportKind → String
  | .opcTcp => "OpcTcp"
  | .https => "Https"

/-- The scheme of the URLs that are advertised. -/
def scheme : TransportKind → String
  | .opcTcp => "opc.tcp"
  | .https => "https"

/-- The transport of a URL scheme; `http` and `https` share one. -/
def ofScheme? (scheme : String) : Option TransportKind :=
  if scheme = "opc.tcp" then some .opcTcp
  else if scheme = "http" ∨ scheme = "https" then some .https
  else none

def profileUri : TransportKind → String
  | .opcTcp => "http://opcfoundation.org/UA-Profile/Transport/uatcp-uasc-uabinary"
  | .https => "http://opcfoundation.org/UA-Profile/Transport/https-uabinary"

def defaultListenAddress : TransportKind → String
  | .opcTcp => "0.0.0.0:4840"
  | .https => "0.0.0.0:4843"

def toJson (k : TransportKind) : Json :=
  .text k.name

def ofJson? : Json → Option TransportKind :=
  Json.asChoice? false names

instance : JsonForm TransportKind where
  toJson := toJson
  ofJson? _ := ofJson?

instance : ToString TransportKind :=
  ⟨scheme⟩

end TransportKind

inductive EngineFlag where
  /-- Serve connections side by side. -/
  | multiThread
  /-- Bind an address that is still in use. -/
  | reuseAddress
  deriving DecidableEq, Repr

namespace EngineFlag

def names : List (String × EngineFlag) :=
  [("multi_thread", .multiThread), ("reuse_address", .reuseAddress)]

def name : EngineFlag → String
  | .multiThread => "multi_thread"
  | .reuseAddress => "reuse_address"

def debugText : EngineFlag → String
  | .multiThread => "MultiThread"
  | .reuseAddress => "ReuseAddress"

def toJson (f : EngineFlag) : Json :=
  .text f.name

def ofJson? : Json → Option EngineFlag :=
  Json.asChoice? false names

/-- The flags that occur, each once and in their order. -/
def set (flags : List EngineFlag) : List EngineFlag :=
  [.multiThread, .reuseAddress].filter flags.contains

instance : JsonForm EngineFlag where
  toJson := toJson
  ofJson? _ := ofJson?

end EngineFlag

inductive HostnameVerification where
  | strict
  | allowAll
  deriving DecidableEq, Repr

namespace HostnameVerification

def names : List (String × HostnameVerification) := [("strict", .strict), ("allow_all", .allowAll)]

def name : HostnameVerification → String
  | .strict => "strict"
  | .allowAll => "allow_all"

def debugText : HostnameVerification → String
  | .strict => "Strict"
  | .allowAll => "AllowAll"

def toJson (v : HostnameVerification) : Json :=
  .text v.name

def ofJson? : Json → Option HostnameVerification :=
  Json.asChoice? false names

instance : JsonForm HostnameVerification where
  toJson := toJson
  ofJson? _ := ofJson?

end HostnameVerification

inductive HttpsSecurityPolicy where
  | tls10
  | tls11
  | tls12
  | tls12Pfs
  deriving DecidableEq, Repr

namespace HttpsSecurityPolicy

def names : List (String × HttpsSecurityPolicy) := [
  ("TLS_1_0", .tls10), ("TLS_1_1", .tls11), ("TLS_1_2", .tls12), ("TLS_1_2_PFS", .tls12Pfs)]

def name : HttpsSecurityPolicy → String
  | .tls10 => "TLS_1_0"
  | .tls11 => "TLS_1_1"
  | .tls12 => "TLS_1_2"
  | .tls12Pfs => "TLS_1_2_PFS"

def debugText : HttpsSecurityPolicy → String
  | .tls10 => "Tls10"
  | .tls11 => "Tls11"
  | .tls12 => "Tls12"
  | .tls12Pfs => "Tls12Pfs"

def toJson (p : HttpsSecurityPolicy) : Json :=
  .text p.name

def ofJson? : Json → Option HttpsSecurityPolicy :=
  Json.asChoice? false names

instance : JsonForm HttpsSecurityPolicy where
  toJson := toJson
  ofJson? _ := ofJson?

end HttpsSecurityPolicy

end OpcUa
