import OpcUa.Hex
import OpcUa.Json.Basic
import OpcUa.Text.Double
import OpcUa.Time.Calendar

/-!
# TOML scalars

Truth values, numbers and times. Whole numbers have 64 bits and a sign; other numbers and times keep
their spelling.
-/

namespace OpcUa.Toml

/-- What a scalar that is no string consists of. -/
def isScalarChar (c : Char) : Bool :=
  c.isAlphanum || c == '+' || c == '-' || c == '_' || c == '.' || c == ':'

/-! ### Numbers -/

/-- The digits of a text in which single underscores may stand between digits. -/
def digitRun? (isDigit : Char → Bool) : List Char → Option (List Char)
  | [] => none
  | [c] => if isDigit c then some [c] else none
  | c :: '_' :: rest => if isDigit c then (digitRun? isDigit rest).map (c :: ·) else none
  | c :: rest => if isDigit c then (digitRun? isDigit rest).map (c :: ·) else none

def decimal (digits : List Char) : Nat :=
  digits.foldl (fun n c => n * 10 + (c.toNat - '0'.toNat)) 0

/-- The digits of a whole number in decimal: no zero comes before others. -/
def wholeRun? (text : List Char) : Option (List Char) :=
  (digitRun? Char.isDigit text).filter fun digits => digits.head? != some '0' || text.length == 1

/-- Whether the text starts with a minus sign, and the text without its sign. -/
def unsigned : List Char → Bool × List Char
  | [] => (false, [])
  | c :: rest =>
    if c = '-' then (true, rest)
    else if c = '+' then (false, rest)
    else (false, c :: rest)

def isOctal (c : Char) : Bool :=
  '0' ≤ c && c ≤ '7'

def isBinary (c : Char) : Bool :=
  c == '0' || c == '1'

def isHex (c : Char) : Bool :=
  (Hex.digitValue? c).isSome

/-- The number of digits to a power of two. -/
def ofDigits (base : Nat) (digits : List Char) : Nat :=
  digits.foldl (fun n c => n * base + (Hex.digitValue? c).getD 0) 0

/-- A number with a letter for its base after a zero. -/
def based? (text : List Char) : Option Nat :=
  let rest := text.drop 2
  if text.take 2 = ['0', 'x'] then (digitRun? isHex rest).map (ofDigits 16)
  else if text.take 2 = ['0', 'o'] then (digitRun? isOctal rest).map (ofDigits 8)
  else if text.take 2 = ['0', 'b'] then (digitRun? isBinary rest).map (ofDigits 2)
  else none

def decimalInteger? (text : List Char) : Option Int :=
  let (negative, digits) := unsigned text
  (wholeRun? digits).map fun digits => if negative then -decimal digits else decimal digits

def integer? (text : List Char) : Option Int :=
  match based? text with
  | some n => some n
  | none => decimalInteger? text

/-- The part after a point or an exponent's letter, if there is one. -/
def parted (isMark : Char → Bool) (text : List Char) : List Char × Option (List Char) :=
  match text.dropWhile fun c => !isMark c with
  | [] => (text, none)
  | _ :: rest => (text.takeWhile fun c => !isMark c, some rest)

/-- The exponent of a number. -/
def exponent? (text : List Char) : Option Int :=
  let (negative, digits) := unsigned text
  (digitRun? Char.isDigit digits).map fun digits =>
    if negative then -decimal digits else decimal digits

/-- A number with a point or an exponent. It must not be too large for a double, but it may be too
small for one. -/
def isReal (text : List Char) : Bool :=
  let (negative, unsigned) := unsigned text
  let (mantissa, exponent) := parted (fun c => c == 'e' || c == 'E') unsigned
  let (whole, fraction) := parted (· == '.') mantissa
  match wholeRun? whole, fraction.map (digitRun? Char.isDigit), exponent.map exponent? with
  | some whole, some (some fraction), none =>
    negative || Double.isFinite (decimal (whole ++ fraction)) (-fraction.length)
  | some whole, none, some (some exponent) =>
    negative || Double.isFinite (decimal whole) exponent
  | some whole, some (some fraction), some (some exponent) =>
    negative || Double.isFinite (decimal (whole ++ fraction)) (exponent - fraction.length)
  | _, _, _ => false

/-- Infinity or no number. -/
def isSpecial (text : List Char) : Bool :=
  let (_, name) := unsigned text
  name == ['i', 'n', 'f'] || name == ['n', 'a', 'n']

/-! ### Times -/

/-- The number of exactly `size` digits. -/
def fixed? (size : Nat) (text : List Char) : Option Nat :=
  if text.length = size && text.all Char.isDigit then some (decimal text) else none

def isFixed (size bound : Nat) (text : List Char) : Bool :=
  (fixed? size text).any (· < bound)

/-- Year, month and day with hyphens between them. -/
def isDate (text : List Char) : Bool :=
  let (year, rest) := parted (· == '-') text
  let (month, day) := parted (· == '-') (rest.getD [])
  match fixed? 4 year, fixed? 2 month, fixed? 2 (day.getD []) with
  | some year, some month, some day => Calendar.isDate year month day
  | _, _, _ => false

/-- Hours, minutes and seconds with colons between them and maybe a fraction. -/
def isTime (text : List Char) : Bool :=
  let (hours, rest) := parted (· == ':') text
  let (minutes, rest) := parted (· == ':') (rest.getD [])
  let (seconds, fraction) := parted (· == '.') (rest.getD [])
  isFixed 2 24 hours && isFixed 2 60 minutes && isFixed 2 61 seconds &&
    fraction.all fun digits => !digits.isEmpty && digits.all Char.isDigit

/-- How far a time is from universal time, with a sign or as a letter. -/
def isOffset (text : List Char) : Bool :=
  match text with
  | [] => true
  | c :: rest =>
    let (hours, minutes) := parted (· == ':') rest
    if c = '+' ∨ c = '-' then isFixed 2 24 hours && isFixed 2 60 (minutes.getD [])
    else (c == 'Z' || c == 'z') && rest.isEmpty

def isOffsetChar (c : Char) : Bool :=
  c == '+' || c == '-' || c == 'Z' || c == 'z'

/-- A time that may say how far it is from universal time. -/
def isZonedTime (text : List Char) : Bool :=
  isTime (text.takeWhile fun c => !isOffsetChar c) &&
    isOffset (text.dropWhile fun c => !isOffsetChar c)

/-- A date, a time, or both with the letter T between them. -/
def isMoment (text : List Char) : Bool :=
  let (date, time) := parted (fun c => c == 'T' || c == 't') text
  isDate date && time.all isZonedTime || isTime text

/-! ### Scalars -/

def ofScalar? (text : List Char) : Option Json :=
  if text = "true".toList then some (.bool true)
  else if text = "false".toList then some (.bool false)
  else
    match integer? text with
    | some n =>
      if Int64.minValue.toInt ≤ n ∧ n ≤ Int64.maxValue.toInt then some (.int n) else none
    | none =>
      if isReal text || isSpecial text || isMoment text then some (.real (String.ofList text))
      else none

/-- The time after a date and a blank. -/
def timeAfter? (date rest : List Char) : Option (Json × List Char) :=
  let time := rest.takeWhile isScalarChar
  if isZonedTime time then
    some (.real (String.ofList (date ++ ' ' :: time)), rest.dropWhile isScalarChar)
  else none

/-- The scalar that starts the input. -/
def scalar? (input : List Char) : Option (Json × List Char) :=
  let text := input.takeWhile isScalarChar
  let rest := input.dropWhile isScalarChar
  if isDate text && rest.head? == some ' ' && (rest.tail.head?).any Char.isDigit then
    timeAfter? text rest.tail
  else (ofScalar? text).map (·, rest)

end OpcUa.Toml
