/-!
# Hexadecimal text

Two digits a byte, the high half first: written in lower case, read in either case.
-/

namespace OpcUa.Hex

def digitOf (n : Nat) : Char :=
  if n < 10 then Char.ofNat ('0'.toNat + n) else Char.ofNat ('a'.toNat + (n - 10))

def digitValue? (c : Char) : Option Nat :=
  if '0' ≤ c ∧ c ≤ '9' then some (c.toNat - '0'.toNat)
  else if 'a' ≤ c ∧ c ≤ 'f' then some (c.toNat - 'a'.toNat + 10)
  else if 'A' ≤ c ∧ c ≤ 'F' then some (c.toNat - 'A'.toNat + 10)
  else none

def ofByte (b : UInt8) : List Char :=
  [digitOf (b.toNat / 16), digitOf (b.toNat % 16)]

def encode (bytes : List UInt8) : String :=
  String.ofList (bytes.flatMap ofByte)

def byteOf? (high low : Char) : Option UInt8 := do
  let h ← digitValue? high
  let l ← digitValue? low
  return UInt8.ofNat (h * 16 + l)

/-- The bytes of a text, put before `done` in reverse. -/
def decodeInto (done : List UInt8) : List Char → Option (List UInt8)
  | [] => some done.reverse
  | high :: low :: rest =>
    match byteOf? high low with
    | some b => decodeInto (b :: done) rest
    | none => none
  | [_] => none

def decode? (text : List Char) : Option (List UInt8) :=
  decodeInto [] text

/-- The number that hexadecimal digits spell. -/
def number? (digits : List Char) : Option Nat :=
  digits.foldlM (fun n c => (digitValue? c).map (n * 16 + ·)) 0

/-- The last `width` hexadecimal digits of a number. -/
def ofNumber : Nat → Nat → List Char
  | 0, _ => []
  | width + 1, n => ofNumber width (n / 16) ++ [digitOf (n % 16)]

end OpcUa.Hex
