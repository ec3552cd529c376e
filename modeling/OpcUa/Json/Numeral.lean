import OpcUa.Json.Basic
import OpcUa.Text.Double

/-!
# JSON numbers

A number as it is spelled, and the value that it stands for. A number that is no 64-bit integer is
made a double, from as many of its digits as fit in 64 bits and from a power of ten.
-/

namespace OpcUa.Json

def isDigit (b : UInt8) : Bool :=
  0x30 ≤ b && b ≤ 0x39

def digitsValue (digits : List UInt8) : Nat :=
  digits.foldl (fun n b => n * 10 + (b.toNat - 0x30)) 0

/-- Takes digits into `taken` up to the first that would make it too large, and gives the rest. -/
def takeDigits (taken : Nat) : List UInt8 → Nat × List UInt8
  | [] => (taken, [])
  | b :: rest =>
    let next := taken * 10 + (b.toNat - 0x30)
    if next < UInt64.size then takeDigits next rest else (taken, b :: rest)

/-- The parts of a number as they stand: sign, whole digits, digits after the point, and the
exponent with its sign. -/
structure Numeral where
  negative : Bool
  whole : List UInt8
  fraction : Option (List UInt8)
  exponent : Option (Option UInt8 × List UInt8)

namespace Numeral

def spelling (n : Numeral) : String :=
  let sign : List UInt8 := if n.negative then [0x2D] else []
  let fraction := match n.fraction with
    | some digits => 0x2E :: digits
    | none => []
  let exponent := match n.exponent with
    | some (sign, digits) => 0x65 :: sign.toList ++ digits
    | none => []
  String.ofList ((sign ++ n.whole ++ fraction ++ exponent).map fun b => Char.ofNat b.toNat)

/-- The digits that count, and the power of ten that they count without the exponent. A whole digit
that is left out still moves the point; one after the point does not. -/
def significand (n : Numeral) : Nat × Int :=
  let fraction := n.fraction.getD []
  let (whole, skipped) := takeDigits 0 n.whole
  let (digits, unread) := takeDigits whole fraction
  (digits, skipped.length - (fraction.length - unread.length : Nat))

/-- The double that the number is made is finite. An exponent of more than 32 bits settles that by
its sign. -/
def isFinite (n : Numeral) : Bool :=
  let (digits, power) := n.significand
  match n.exponent with
  | none => Double.isFiniteProduct digits power
  | some (sign, exponent) =>
    let exponent := digitsValue exponent
    if Int32.maxValue.toInt < exponent then digits == 0 || sign == some 0x2D
    else if sign = some 0x2D then Double.isFiniteProduct digits (power - exponent)
    else Double.isFiniteProduct digits (power + exponent)

/-- A whole number of 64 bits is an integer, except zero with a minus sign. -/
def value (n : Numeral) : Json :=
  let magnitude := digitsValue n.whole
  if n.fraction.isNone && n.exponent.isNone && !n.negative && magnitude < UInt64.size then
    .int magnitude
  else if n.fraction.isNone && n.exponent.isNone && n.negative && 0 < magnitude &&
      magnitude ≤ 1 <<< 63 then
    .int (-magnitude)
  else if n.isFinite then .real n.spelling
  else .unreadable

end Numeral

/-- The whole digits: a single zero, or digits that start with another one. -/
def scanWhole (input : List UInt8) : Option (List UInt8 × List UInt8) :=
  let (digits, rest) := input.span isDigit
  if digits = [] ∨ (digits.head? = some 0x30 ∧ 1 < digits.length) then none
  else some (digits, rest)

/-- The digits after a point, when the input starts with one. -/
def scanFraction (input : List UInt8) : Option (Option (List UInt8) × List UInt8) :=
  if input.head? = some 0x2E then
    match input.tail.span isDigit with
    | ([], _) => none
    | (digits, rest) => some (some digits, rest)
  else some (none, input)

def scanExponentDigits (sign : Option UInt8) (input : List UInt8) :
    Option (Option (Option UInt8 × List UInt8) × List UInt8) :=
  match input.span isDigit with
  | ([], _) => none
  | (digits, rest) => some (some (sign, digits), rest)

/-- The exponent, when the input starts with one. -/
def scanExponent : List UInt8 → Option (Option (Option UInt8 × List UInt8) × List UInt8)
  | [] => some (none, [])
  | b :: rest =>
    if b = 0x65 ∨ b = 0x45 then
      match rest with
      | [] => none
      | s :: after =>
        if s = 0x2B ∨ s = 0x2D then scanExponentDigits (some s) after
        else scanExponentDigits none rest
    else some (none, b :: rest)

end OpcUa.Json
