/-!
# Unsigned decimals

An unsigned decimal below a bound, with an optional plus sign and any number of leading zeros.
-/

namespace OpcUa.Decimal

inductive Fault where
  | empty
  | invalidDigit
  | tooLarge
  deriving DecidableEq, Repr

def Fault.message : Fault → String
  | .empty => "cannot parse integer from empty string"
  | .invalidDigit => "invalid digit found in string"
  | .tooLarge => "number too large to fit in target type"

def digitValue (c : Char) : Nat :=
  c.toNat - '0'.toNat

/-- Continues `value` by the digits of a text and stops at the first character that is no digit
or takes the number to `bound`. -/
def extend (bound value : Nat) : List Char → Except Fault Nat
  | [] => .ok value
  | c :: rest =>
    if !c.isDigit then .error .invalidDigit
    else if bound ≤ value * 10 + digitValue c then .error .tooLarge
    else extend bound (value * 10 + digitValue c) rest

/-- A plus sign needs a digit after it; without one the sign itself counts as the digit that is
wrong. -/
def read (bound : Nat) : List Char → Except Fault Nat
  | [] => .error .empty
  | ['+'] => .error .invalidDigit
  | '+' :: digits => extend bound 0 digits
  | digits => extend bound 0 digits

end OpcUa.Decimal
