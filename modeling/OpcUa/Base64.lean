/-!
# Base64

The standard alphabet with padding. Reading is strict: every group of four characters is complete,
padding stands at the end alone, and the bits that padding leaves over are zero.
-/

namespace OpcUa.Base64

def digitOf (n : Nat) : Char :=
  if n < 26 then Char.ofNat ('A'.toNat + n)
  else if n < 52 then Char.ofNat ('a'.toNat + (n - 26))
  else if n < 62 then Char.ofNat ('0'.toNat + (n - 52))
  else if n = 62 then '+' else '/'

def digitValue? (c : Char) : Option Nat :=
  if 'A' ≤ c ∧ c ≤ 'Z' then some (c.toNat - 'A'.toNat)
  else if 'a' ≤ c ∧ c ≤ 'z' then some (c.toNat - 'a'.toNat + 26)
  else if '0' ≤ c ∧ c ≤ '9' then some (c.toNat - '0'.toNat + 52)
  else if c = '+' then some 62
  else if c = '/' then some 63
  else none

/-- The text of the bytes, put before `done` in reverse. -/
def encodeInto (done : List Char) : List UInt8 → List Char
  | [] => done.reverse
  | [a] =>
    ('=' :: '=' :: digitOf (a.toNat % 4 * 16) :: digitOf (a.toNat / 4) :: done).reverse
  | [a, b] =>
    ('=' :: digitOf (b.toNat % 16 * 4) :: digitOf (a.toNat % 4 * 16 + b.toNat / 16) ::
      digitOf (a.toNat / 4) :: done).reverse
  | a :: b :: c :: rest =>
    encodeInto (digitOf (c.toNat % 64) :: digitOf (b.toNat % 16 * 4 + c.toNat / 64) ::
      digitOf (a.toNat % 4 * 16 + b.toNat / 16) :: digitOf (a.toNat / 4) :: done) rest

def encode (bytes : List UInt8) : String :=
  String.ofList (encodeInto [] bytes)

/-- The bytes of a text, put before `done` in reverse. -/
def decodeInto (done : List UInt8) : List Char → Option (List UInt8)
  | [] => some done.reverse
  | [c₁, c₂, '=', '='] => do
    let a ← digitValue? c₁
    let b ← digitValue? c₂
    if b % 16 = 0 then some (UInt8.ofNat (a * 4 + b / 16) :: done).reverse else none
  | [c₁, c₂, c₃, '='] => do
    let a ← digitValue? c₁
    let b ← digitValue? c₂
    let c ← digitValue? c₃
    if c % 4 = 0 then
      some (UInt8.ofNat (b % 16 * 16 + c / 4) :: UInt8.ofNat (a * 4 + b / 16) :: done).reverse
    else none
  | c₁ :: c₂ :: c₃ :: c₄ :: rest =>
    match digitValue? c₁, digitValue? c₂, digitValue? c₃, digitValue? c₄ with
    | some a, some b, some c, some d =>
      decodeInto (UInt8.ofNat (c % 4 * 64 + d) :: UInt8.ofNat (b % 16 * 16 + c / 4) ::
        UInt8.ofNat (a * 4 + b / 16) :: done) rest
    | _, _, _, _ => none
  | _ => none

def decode? (text : String) : Option (List UInt8) :=
  decodeInto [] text.toList

end OpcUa.Base64
