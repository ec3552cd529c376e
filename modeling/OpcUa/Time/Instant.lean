import OpcUa.Time.Calendar

/-!
# Instants

A point in universal time to the nanosecond. In a leap second the second stands still and the
nanoseconds run on past a thousand million. Leap seconds are not looked up: one may follow any
second.
-/

namespace OpcUa

/-- A year that a date may have, and no more nanoseconds than a second and its leap second. -/
def Instant.inRange (seconds : Int) (nanos : Nat) : Bool :=
  Calendar.isYear (Calendar.ofDays (seconds / 86400)).1 && nanos < 2000000000

structure Instant where
  /-- Since 1970-01-01, without leap seconds. -/
  seconds : Int
  nanos : Nat
  isInRange : Instant.inRange seconds nanos = true := by exact Eq.refl true
  deriving DecidableEq, Repr

namespace Instant

/-- The instant of these seconds and nanoseconds, if there is one. -/
def of? (seconds : Int) (nanos : Nat) : Option Instant :=
  if isInRange : inRange seconds nanos = true then some ⟨seconds, nanos, isInRange⟩ else none

theorem isYear (t : Instant) : Calendar.isYear (Calendar.ofDays (t.seconds / 86400)).1 = true :=
  (Bool.and_eq_true_iff.mp t.isInRange).1

theorem nanos_lt (t : Instant) : t.nanos < 2000000000 :=
  of_decide_eq_true (Bool.and_eq_true_iff.mp t.isInRange).2

/-- The start of 1970. -/
def epoch : Instant where
  seconds := 0
  nanos := 0

def before (a b : Instant) : Bool :=
  a.seconds < b.seconds || (a.seconds == b.seconds && a.nanos < b.nanos)

/-- `n` in `width` digits, or more when it needs them. -/
def padded (width n : Nat) : String :=
  let digits := (Nat.repr n).toList
  String.ofList (List.replicate (width - digits.length) '0' ++ digits)

/-- Four digits, or a sign and at least four outside the years that four digits can tell. -/
def yearText (year : Int) : String :=
  if 0 ≤ year ∧ year ≤ 9999 then padded 4 year.toNat
  else if 0 ≤ year then "+" ++ padded 4 year.toNat
  else "-" ++ padded 4 (-year).toNat

def dateText (t : Instant) : String :=
  let (year, month, day) := Calendar.ofDays (t.seconds / 86400)
  yearText year ++ "-" ++ padded 2 month ++ "-" ++ padded 2 day

/-- Three, six or nine digits, the fewest that are exact, and none for a whole second. -/
def fractionText (nanos : Nat) : String :=
  if nanos = 0 then ""
  else if nanos % 1000000 = 0 then "." ++ padded 3 (nanos / 1000000)
  else if nanos % 1000 = 0 then "." ++ padded 6 (nanos / 1000)
  else "." ++ padded 9 nanos

def clockText (t : Instant) : String :=
  let second := (t.seconds % 86400).toNat
  let leap := if 1000000000 ≤ t.nanos then 1 else 0
  padded 2 (second / 3600) ++ ":" ++ padded 2 (second / 60 % 60) ++ ":" ++
    padded 2 (second % 60 + leap) ++ fractionText (t.nanos % 1000000000)

/-- The form of RFC 3339. -/
def text (t : Instant) : String :=
  t.dateText ++ "T" ++ t.clockText ++ "Z"

/-- The form for people. -/
def spaced (t : Instant) : String :=
  t.dateText ++ " " ++ t.clockText ++ " UTC"

/-- The instant of a date and a time of day, `offset` seconds ahead of universal time. A sixtieth
second is a leap second. -/
def ofCivil? (year : Int) (month day hour minute second nanos : Nat) (offset : Int) :
    Option Instant :=
  if Calendar.isYear year && Calendar.isDate year month day && hour ≤ 23 && minute ≤ 59 &&
      second ≤ 60 then
    let leap := second == 60
    let clock : Int := hour * 3600 + minute * 60 + (if leap then 59 else second)
    of? (Calendar.toDays year month day * 86400 + clock - offset)
      (if leap then nanos + 1000000000 else nanos)
  else none

end Instant

end OpcUa
