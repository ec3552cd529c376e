import OpcUa.Hex

/-!
# Status codes

A 32-bit code whose top two bits tell good, uncertain and bad apart. The codes that this library
gives have names.
-/

namespace OpcUa

structure StatusCode where
  code : UInt32
  deriving DecidableEq, Repr

namespace StatusCode

def good : StatusCode := ⟨0⟩
def badUnexpectedError : StatusCode := ⟨0x80010000⟩
def badCommunicationError : StatusCode := ⟨0x80050000⟩
def badEncodingError : StatusCode := ⟨0x80060000⟩
def badDecodingError : StatusCode := ⟨0x80070000⟩
def badServiceUnsupported : StatusCode := ⟨0x800B0000⟩
def badDataTypeIdUnknown : StatusCode := ⟨0x80110000⟩
def badCertificateInvalid : StatusCode := ⟨0x80120000⟩
def badCertificateTimeInvalid : StatusCode := ⟨0x80140000⟩
def badCertificateUntrusted : StatusCode := ⟨0x801A0000⟩
def badNotFound : StatusCode := ⟨0x803E0000⟩
def badSecurityPolicyRejected : StatusCode := ⟨0x80550000⟩
def badTcpMessageTooLarge : StatusCode := ⟨0x80800000⟩
def badConfigurationError : StatusCode := ⟨0x80890000⟩

def names : List (StatusCode × String) := [
  (good, "Good"),
  (badUnexpectedError, "Bad_UnexpectedError"),
  (badCommunicationError, "Bad_CommunicationError"),
  (badEncodingError, "Bad_EncodingError"),
  (badDecodingError, "Bad_DecodingError"),
  (badServiceUnsupported, "Bad_ServiceUnsupported"),
  (badDataTypeIdUnknown, "Bad_DataTypeIdUnknown"),
  (badCertificateInvalid, "Bad_CertificateInvalid"),
  (badCertificateTimeInvalid, "Bad_CertificateTimeInvalid"),
  (badCertificateUntrusted, "Bad_CertificateUntrusted"),
  (badNotFound, "Bad_NotFound"),
  (badSecurityPolicyRejected, "Bad_SecurityPolicyRejected"),
  (badTcpMessageTooLarge, "Bad_TcpMessageTooLarge"),
  (badConfigurationError, "Bad_ConfigurationError")]

def name? (s : StatusCode) : Option String :=
  (names.find? (·.1 == s)).map (·.2)

def isGood (s : StatusCode) : Bool :=
  s.code &&& 0xC0000000 == 0

def isBad (s : StatusCode) : Bool :=
  s.code &&& 0x80000000 != 0

/-- Eight digits in capitals. -/
def hexText (s : StatusCode) : String :=
  "0x" ++ String.ofList ((Hex.ofNumber 8 s.code.toNat).map Char.toUpper)

def text (s : StatusCode) : String :=
  match s.name? with
  | some name => name ++ " (" ++ s.hexText ++ ")"
  | none => s.hexText

end StatusCode

end OpcUa
