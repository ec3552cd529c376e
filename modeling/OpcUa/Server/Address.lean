import OpcUa.Text.Cut
import OpcUa.Text.Decimal

/-!
# Socket addresses

An IPv4 address and a port. The four numbers of the address have no leading zeros.
-/

namespace OpcUa

structure SocketAddress where
  a : UInt8
  b : UInt8
  c : UInt8
  d : UInt8
  port : UInt16
  deriving DecidableEq, Repr

namespace SocketAddress

def host (s : SocketAddress) : String :=
  s!"{s.a.toNat}.{s.b.toNat}.{s.c.toNat}.{s.d.toNat}"

def text (s : SocketAddress) : String :=
  s!"{s.host}:{s.port.toNat}"

/-- Digits alone, as a number below `bound`. -/
def number? (bound : Nat) (digits : List Char) : Option Nat :=
  if digits.isEmpty then none
  else
    match Decimal.extend bound 0 digits with
    | .ok n => some n
    | .error _ => none

def octet? (digits : List Char) : Option UInt8 :=
  if 3 < digits.length ∨ (digits.head? = some '0' ∧ 1 < digits.length) then none
  else (number? UInt8.size digits).map UInt8.ofNat

def ofText? (text : String) : Option SocketAddress := do
  let (a, rest) ← Text.cutAt? ['.'] text.toList
  let (b, rest) ← Text.cutAt? ['.'] rest
  let (c, rest) ← Text.cutAt? ['.'] rest
  let (d, port) ← Text.cutAt? [':'] rest
  return ⟨← octet? a, ← octet? b, ← octet? c, ← octet? d,
    UInt16.ofNat (← number? UInt16.size port)⟩

end SocketAddress

end OpcUa
