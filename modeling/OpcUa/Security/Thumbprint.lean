import OpcUa.Digest.Sha256
import OpcUa.Fault
import OpcUa.Json.Form
import OpcUa.Text.Blank

/-!
# Thumbprints

The digest of a certificate, which stands for it in trust lists and wherever people name it.
-/

namespace OpcUa

structure Thumbprint where
  bytes : List UInt8
  length_eq : bytes.length = 32
  deriving DecidableEq

namespace Thumbprint

/-- The thumbprint of a certificate's encoding. -/
def of (der : List UInt8) : Thumbprint :=
  ⟨Sha256.digest der, Sha256.length_digest der⟩

def ofBytes (bytes : List UInt8) : Except Fault Thumbprint :=
  if length_eq : bytes.length = 32 then .ok ⟨bytes, length_eq⟩
  else .error (.thumbprintLength bytes.length)

def hasBytes (t : Thumbprint) (bytes : List UInt8) : Bool :=
  t.bytes == bytes

def text (t : Thumbprint) : String :=
  Hex.encode t.bytes

def debugText (t : Thumbprint) : String :=
  "Thumbprint(" ++ t.text ++ ")"

/-- Digits in either case, with blanks around them. -/
def ofText (text : String) : Except Fault Thumbprint :=
  match Hex.decode? (Text.trimmed text.toList) with
  | some bytes => ofBytes bytes
  | none => .error (.thumbprintText text)

/-- By the first byte that differs. -/
def before (a b : Thumbprint) : Bool :=
  (compare a.bytes b.bytes).isLT

def toJson (t : Thumbprint) : Json :=
  .text t.text

def ofJson? (value : Json) : Option Thumbprint := do
  match ofText (← value.asText?) with
  | .ok t => some t
  | .error _ => none

instance : JsonForm Thumbprint where
  toJson := toJson
  ofJson? _ := ofJson?

instance : ToString Thumbprint :=
  ⟨text⟩

end Thumbprint

end OpcUa
