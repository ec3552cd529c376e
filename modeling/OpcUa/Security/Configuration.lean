import OpcUa.Security.Identity
import OpcUa.Security.Transport
import OpcUa.Security.Trust

/-!
# Transport security

What one transport needs to secure its connections. Every part may be unset, so that a configuration
can be laid over another one: the parts that are set in it replace those below.
-/

namespace OpcUa

/-- The identities that a transport may present and the certificates that vouch for them. -/
structure IdentityMaterial where
  identities : List Identity
  trustedChain : List Certificate

namespace IdentityMaterial

/-- The last identity. -/
def active? (m : IdentityMaterial) : Option Identity :=
  m.identities.getLast?

def debugText (m : IdentityMaterial) : String :=
  "IdentityMaterial \x7b identities: [" ++
    ", ".intercalate (m.identities.map Identity.debugText) ++ "], trusted_chain: [" ++
    ", ".intercalate (m.trustedChain.map Certificate.debugText) ++ "] \x7d"

end IdentityMaterial

structure Credentials where
  username : String
  password : String
  deriving DecidableEq

/-- Nothing of the password. -/
def Credentials.debugText (c : Credentials) : String :=
  "Credentials \x7b username: " ++ Text.quoted c.username ++ ", password: \"<redacted>\" \x7d"

structure TransportSecurity where
  kind : TransportKind
  identityMaterial : Option IdentityMaterial := none
  trust : Option TrustPolicy := none
  username : Option String := none
  password : Option String := none
  /-- Each flag once and in order. -/
  flags : Option (List EngineFlag) := none
  hostnameVerification : Option HostnameVerification := none
  httpsPolicies : Option (List HttpsSecurityPolicy) := none

namespace TransportSecurity

/-! ### Identities -/

def setIdentity (s : TransportSecurity) (identity : Identity) (chain : List Certificate) :
    TransportSecurity :=
  { s with identityMaterial := some ⟨[identity], chain⟩ }

/-- The identity of a certificate and its key, which must be there. -/
def setIdentityFromParts (s : TransportSecurity) (certificate : Certificate)
    (key : Option PrivateKey) : Except Fault TransportSecurity :=
  match key with
  | none => .error (.keyMissing certificate.subject)
  | some key => (Identity.of certificate key).map fun identity => s.setIdentity identity []

/-- Several identities, at least one. -/
def setIdentities (s : TransportSecurity) (identities : List Identity) (chain : List Certificate) :
    Except Fault TransportSecurity :=
  if identities.isEmpty then .error (.identityMissing s.kind.scheme)
  else .ok { s with identityMaterial := some ⟨identities, chain⟩ }

def clearIdentity (s : TransportSecurity) : TransportSecurity :=
  { s with identityMaterial := none }

/-- The identity that the transport presents. -/
def identity? (s : TransportSecurity) : Option Identity :=
  s.identityMaterial.bind IdentityMaterial.active?

def trustedChain (s : TransportSecurity) : List Certificate :=
  (s.identityMaterial.map IdentityMaterial.trustedChain).getD []

/-! ### Trust -/

def setTrust (s : TransportSecurity) (policy : TrustPolicy) : TransportSecurity :=
  { s with trust := some policy }

/-- Everyone is trusted when nothing is set. -/
def trustPolicy (s : TransportSecurity) : TrustPolicy :=
  s.trust.getD .allowAll

def validatePeer (s : TransportSecurity) (now : Instant) (c : Certificate) : Except Fault Unit :=
  s.trustPolicy.validate now c

/-! ### Credentials and engine settings -/

def setUsername (s : TransportSecurity) (username : String) : TransportSecurity :=
  { s with username := some username }

def setPassword (s : TransportSecurity) (password : String) : TransportSecurity :=
  { s with password := some password }

def setCredentials (s : TransportSecurity) (c : Credentials) : TransportSecurity :=
  { s with username := some c.username, password := some c.password }

/-- User name and password, when both are set. -/
def credentials? (s : TransportSecurity) : Option Credentials :=
  match s.username, s.password with
  | some username, some password => some ⟨username, password⟩
  | _, _ => none

def setFlags (s : TransportSecurity) (flags : List EngineFlag) : TransportSecurity :=
  { s with flags := some (EngineFlag.set flags) }

def currentFlags (s : TransportSecurity) : List EngineFlag :=
  s.flags.getD []

def hasFlag (s : TransportSecurity) (flag : EngineFlag) : Bool :=
  s.currentFlags.contains flag

/-- The configuration `changed`, if settings of HTTPS apply to this one. -/
def forHttps (s : TransportSecurity) (setting : String) (changed : TransportSecurity) :
    Except Fault TransportSecurity :=
  if s.kind = .https then .ok changed else .error (.httpsOnly setting)

def setHostnameVerification (s : TransportSecurity) (mode : HostnameVerification) :
    Except Fault TransportSecurity :=
  s.forHttps "hostname verification" { s with hostnameVerification := some mode }

def setHttpsPolicies (s : TransportSecurity) (policies : List HttpsSecurityPolicy) :
    Except Fault TransportSecurity :=
  s.forHttps "HTTPS security policies" { s with httpsPolicies := some policies }

def currentHostnameVerification (s : TransportSecurity) : HostnameVerification :=
  s.hostnameVerification.getD .strict

/-! ### Overlays -/

/-- Lays `upper` over the configuration. User name and password go together and only as a pair; the
transport stays. -/
def overlay (s upper : TransportSecurity) : TransportSecurity where
  kind := s.kind
  identityMaterial := upper.identityMaterial <|> s.identityMaterial
  trust := upper.trust <|> s.trust
  username := if upper.credentials?.isSome then upper.username else s.username
  password := if upper.credentials?.isSome then upper.password else s.password
  flags := upper.flags <|> s.flags
  hostnameVerification := upper.hostnameVerification <|> s.hostnameVerification
  httpsPolicies := upper.httpsPolicies <|> s.httpsPolicies

/-! ### Debug form -/

def optionText {α : Type} (text : α → String) : Option α → String
  | none => "None"
  | some a => "Some(" ++ text a ++ ")"

def listText {α : Type} (text : α → String) (items : List α) : String :=
  ", ".intercalate (items.map text)

/-- All parts, but nothing of the password. -/
def debugText (s : TransportSecurity) : String :=
  "TransportSecurity \x7b kind: " ++ s.kind.debugText ++
    ", identity: " ++ optionText IdentityMaterial.debugText s.identityMaterial ++
    ", trust: " ++ optionText TrustPolicy.debugText s.trust ++
    ", username: " ++ optionText Text.quoted s.username ++
    ", password: " ++ optionText (fun _ => "\"<redacted>\"") s.password ++
    ", flags: " ++
      optionText (fun flags => "\x7b" ++ listText EngineFlag.debugText flags ++ "\x7d") s.flags ++
    ", hostname_verification: " ++
      optionText HostnameVerification.debugText s.hostnameVerification ++
    ", https_policies: " ++
      optionText (fun policies => "[" ++ listText HttpsSecurityPolicy.debugText policies ++ "]")
        s.httpsPolicies ++ " \x7d"

end TransportSecurity

end OpcUa
