import OpcUa.Json.Form

/-!
# Signed software certificates
-/

namespace OpcUa

/-- A software certificate with its issuer's signature. -/
structure SignedSoftwareCertificate where
  certificateData : List UInt8
  signature : List UInt8
  deriving DecidableEq, Repr

namespace SignedSoftwareCertificate

def toJson (c : SignedSoftwareCertificate) : Json :=
  .object [("certificate_data", .ofBytes c.certificateData), ("signature", .ofBytes c.signature)]

def ofJson? (value : Json) : Option SignedSoftwareCertificate := do
  let [data, signature] ← value.fields? ["certificate_data", "signature"] | none
  return {
    certificateData := ← Json.required Json.asBytes? data
    signature := ← Json.required Json.asBytes? signature }

instance : JsonForm SignedSoftwareCertificate where
  toJson := toJson
  ofJson? _ := ofJson?

end SignedSoftwareCertificate

end OpcUa
