import OpcUa.Fault
import OpcUa.Json.Form

/-!
# Security modes, policies and tokens

The choices that an endpoint offers, the names they are written by and their places in an order of
strength.
-/

namespace OpcUa

inductive MessageSecurityMode where
  | invalid
  | none
  | sign
  | signAndEncrypt
  deriving DecidableEq, Repr

namespace MessageSecurityMode

def names : List (String × MessageSecurityMode) := [
  ("Invalid", .invalid), ("None", .none), ("Sign", .sign), ("SignAndEncrypt", .signAndEncrypt)]

def name : MessageSecurityMode → String
  | .invalid => "Invalid"
  | .none => "None"
  | .sign => "Sign"
  | .signAndEncrypt => "SignAndEncrypt"

def number : MessageSecurityMode → Nat
  | .invalid => 0
  | .none => 1
  | .sign => 2
  | .signAndEncrypt => 3

def signs : MessageSecurityMode → Bool
  | .sign | .signAndEncrypt => true
  | _ => false

def encrypts : MessageSecurityMode → Bool
  | .signAndEncrypt => true
  | _ => false

def toJson (m : MessageSecurityMode) : Json :=
  .text m.name

def ofJson? (kept : Bool) : Json → Option MessageSecurityMode :=
  Json.asChoice? kept names

instance : JsonForm MessageSecurityMode where
  toJson := toJson
  ofJson? _ := ofJson? false

end MessageSecurityMode

inductive SecurityPolicy where
  | none
  | basic128Rsa15
  | basic256
  | basic256Sha256
  | aes128Sha256RsaOaep
  | aes256Sha256RsaPss
  deriving DecidableEq, Repr

namespace SecurityPolicy

/-- The weakest first. -/
def all : List SecurityPolicy :=
  [.none, .basic128Rsa15, .basic256, .basic256Sha256, .aes128Sha256RsaOaep, .aes256Sha256RsaPss]

/-- The place in `all`. -/
def rank : SecurityPolicy → Nat
  | .none => 0
  | .basic128Rsa15 => 1
  | .basic256 => 2
  | .basic256Sha256 => 3
  | .aes128Sha256RsaOaep => 4
  | .aes256Sha256RsaPss => 5

def name : SecurityPolicy → String
  | .none => "None"
  | .basic128Rsa15 => "Basic128Rsa15"
  | .basic256 => "Basic256"
  | .basic256Sha256 => "Basic256Sha256"
  | .aes128Sha256RsaOaep => "Aes128_Sha256_RsaOaep"
  | .aes256Sha256RsaPss => "Aes256_Sha256_RsaPss"

def uriStem : String := "http://opcfoundation.org/UA/SecurityPolicy#"

def uri (p : SecurityPolicy) : String :=
  uriStem ++ p.name

def ofUri (uri : String) : Except Fault SecurityPolicy :=
  match all.find? (·.uri == uri) with
  | some p => .ok p
  | .none => .error (.securityPolicyUnknown uri)

/-- An absent or empty URI names the policy without security. -/
def ofOptionalUri : Option String → Except Fault SecurityPolicy
  | .none => .ok .none
  | some uri => if uri = "" then .ok .none else ofUri uri

/-- Reads the URI as it stands, or the name in any case. -/
def ofText (text : String) : Except Fault SecurityPolicy :=
  if uriStem.toList.isPrefixOf text.toList then ofUri text
  else
    match all.find? fun p => p.name.toList.map Char.toLower == text.toList.map Char.toLower with
    | some p => .ok p
    | .none => .error (.securityPolicyUnknown text)

def toJson (p : SecurityPolicy) : Json :=
  .text p.uri

def ofJson? (value : Json) : Option SecurityPolicy := do
  match ofText (← value.asText?) with
  | .ok p => some p
  | .error _ => Option.none

instance : JsonForm SecurityPolicy where
  toJson := toJson
  ofJson? _ := ofJson?

instance : ToString SecurityPolicy :=
  ⟨name⟩

end SecurityPolicy

inductive UserTokenType where
  | anonymous
  | userName
  | certificate
  | issuedToken
  deriving DecidableEq, Repr

namespace UserTokenType

def names : List (String × UserTokenType) := [
  ("Anonymous", .anonymous), ("UserName", .userName), ("Certificate", .certificate),
  ("IssuedToken", .issuedToken)]

def name : UserTokenType → String
  | .anonymous => "Anonymous"
  | .userName => "UserName"
  | .certificate => "Certificate"
  | .issuedToken => "IssuedToken"

def toJson (t : UserTokenType) : Json :=
  .text t.name

def ofJson? (kept : Bool) : Json → Option UserTokenType :=
  Json.asChoice? kept names

instance : JsonForm UserTokenType where
  toJson := toJson
  ofJson? _ := ofJson? false

end UserTokenType

/-- One pair of security mode and policy that a transport advertises. -/
structure SecurityOffer where
  mode : MessageSecurityMode
  policy : SecurityPolicy
  deriving DecidableEq, Repr

namespace SecurityOffer

def none : SecurityOffer :=
  ⟨.none, .none⟩

def toJson (o : SecurityOffer) : Json :=
  .object [("mode", o.mode.toJson), ("policy", o.policy.toJson)]

def ofJson? (value : Json) : Option SecurityOffer := do
  let [mode, policy] ← value.fields? ["mode", "policy"] | Option.none
  return {
    mode := ← Json.required (MessageSecurityMode.ofJson? false) mode
    policy := ← Json.required SecurityPolicy.ofJson? policy }

instance : JsonForm SecurityOffer where
  toJson := toJson
  ofJson? _ := ofJson?

end SecurityOffer

end OpcUa
