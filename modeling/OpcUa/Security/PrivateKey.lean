import OpcUa.Armour
import OpcUa.Fault
import OpcUa.Key.Pkcs8

/-!
# Private keys
-/

namespace OpcUa

/-- A PKCS#8 key and the public half that it gives. -/
structure PrivateKey where
  der : List UInt8
  publicKey : List UInt8
  publicKey_eq : Key.publicKey? der = some publicKey

namespace PrivateKey

def ofDer (der : List UInt8) : Except Fault PrivateKey :=
  match publicKey_eq : Key.publicKey? der with
  | some publicKey => .ok ⟨der, publicKey, publicKey_eq⟩
  | none => .error .keyUnreadable

/-- The text of a file that begins with an armoured block, blanks aside. -/
def armouredText? (bytes : List UInt8) : Option (List Char) :=
  match String.fromUTF8? ⟨bytes.toArray⟩ with
  | none => none
  | some text =>
    if "-----BEGIN".toList.isPrefixOf (text.toList.dropWhile Text.isBlank) then some text.toList
    else none

/-- The key in a file's bytes, with or without armour. -/
def load (bytes : List UInt8) : Except Fault PrivateKey :=
  match armouredText? bytes with
  | none => ofDer bytes
  | some text =>
    match Armour.blockIn? text with
    | some block => ofDer block.bytes
    | none => .error .keyUnreadable

/-- Nothing of the key itself. -/
def debugText (k : PrivateKey) : String :=
  s!"PrivateKey \x7b pkcs8: \"<redacted>\", public_key_len: {k.publicKey.length} \x7d"

end PrivateKey

end OpcUa
