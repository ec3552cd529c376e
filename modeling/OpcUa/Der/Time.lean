import OpcUa.Der.Element
import OpcUa.Time.Instant

/-!
# Times in the distinguished encoding

A time has a year of two or of four digits. Seconds may be missing, in the long form minutes and the
zone as well, and it can have a fraction, which counts for nothing.
-/

namespace OpcUa.Der

/-- Two digits, and the rest. -/
def pair? : List UInt8 → Option (Nat × List UInt8)
  | a :: b :: rest =>
    if 0x30 ≤ a ∧ a ≤ 0x39 ∧ 0x30 ≤ b ∧ b ≤ 0x39 then
      some ((a.toNat - 0x30) * 10 + (b.toNat - 0x30), rest)
    else none
  | _ => none

/-- Two digits if there are two more bytes, and zero otherwise. -/
def pairOrZero? (input : List UInt8) : Option (Nat × List UInt8) :=
  if input.length < 2 then some (0, input) else pair? input

/-- The seconds that a zone is ahead of universal time. -/
def zone? : List UInt8 → Option Int
  | [0x5A] => some 0
  | sign :: rest =>
    if rest.length = 4 ∧ (sign = 0x2B ∨ sign = 0x2D) then do
      let (hours, rest) ← pair? rest
      let (minutes, _) ← pair? rest
      if hours ≤ 25 ∧ minutes ≤ 59 then
        let offset : Int := hours * 3600 + minutes * 60
        some (if sign = 0x2B then offset else -offset)
      else none
    else none
  | [] => none

/-- The rest after a point or a comma and one to three digits, if one stands first. -/
def afterFraction? : List UInt8 → Option (List UInt8)
  | mark :: rest =>
    if mark = 0x2E ∨ mark = 0x2C then
      let after := rest.dropWhile fun b => 0x30 ≤ b && b ≤ 0x39
      let count := rest.length - after.length
      if 3 < count ∨ rest.isEmpty then none else some after
    else some (mark :: rest)
  | [] => some []

def civil? (year month day hour minute second : Nat) (offset : Int) : Option Instant :=
  if second ≤ 59 then Instant.ofCivil? year month day hour minute second 0 offset else none

/-- The time with a year from 1950 to 2049 in two digits. -/
def shortTime? (text : List UInt8) : Option Instant := do
  let (year, rest) ← pair? text
  let (month, rest) ← pair? rest
  let (day, rest) ← pair? rest
  let (hour, rest) ← pair? rest
  let (minute, rest) ← pair? rest
  let (second, rest) ← pairOrZero? rest
  let offset ← zone? rest
  civil? (if year < 50 then 2000 + year else 1900 + year) month day hour minute second offset

/-- The time with a year of four digits. Without a zone it is in universal time. -/
def longTime? (text : List UInt8) : Option Instant := do
  let (century, rest) ← pair? text
  let (year, rest) ← pair? rest
  let (month, rest) ← pair? rest
  let (day, rest) ← pair? rest
  let (hour, rest) ← pair? rest
  if rest.isEmpty then none
  let (minute, rest) ← pairOrZero? rest
  if rest.isEmpty then none
  let (second, rest) ← pairOrZero? rest
  let rest ← afterFraction? rest
  let offset ← if rest.isEmpty then some 0 else zone? rest
  civil? (century * 100 + year) month day hour minute second offset

/-- The time that starts the input, and the rest. -/
def time? (input : List UInt8) : Option (Instant × List UInt8) := do
  let (e, rest) ← element? input
  if e.tag = utcTime then (shortTime? e.content).map (·, rest)
  else if e.tag = generalizedTime then (longTime? e.content).map (·, rest)
  else none

end OpcUa.Der
