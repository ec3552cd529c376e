import OpcUa.Text.Blank
import OpcUa.Text.Decimal
import OpcUa.Time.Instant

/-!
# Reading instants

A tolerant form of RFC 3339: blanks may stand before each number and each separator, date and time
may be joined by a blank, a year may have a sign and then any number of digits, and an offset may
leave out its colon or be `UTC`.
-/

namespace OpcUa.Instant

open OpcUa.Text OpcUa.Decimal

def skipBlanks (input : List Char) : List Char :=
  input.dropWhile isBlank

/-- At least one digit and at most `most` of them, as a number; and the rest. -/
def number? (most : Nat) (input : List Char) : Option (Nat × List Char) :=
  let digits := (input.take most).takeWhile Char.isDigit
  if digits = [] then none
  else some (digits.foldl (fun n c => n * 10 + digitValue c) 0, input.drop digits.length)

/-- A number of one or two digits, blanks before it. -/
def pair? (input : List Char) : Option (Nat × List Char) :=
  number? 2 (skipBlanks input)

def mark? (c : Char) (input : List Char) : Option (List Char) :=
  match skipBlanks input with
  | d :: rest => if d = c then some rest else none
  | [] => none

def year? (input : List Char) : Option (Int × List Char) :=
  match skipBlanks input with
  | '-' :: rest => (number? rest.length rest).map fun (n, rest) => (-(n : Int), rest)
  | '+' :: rest => (number? rest.length rest).map fun (n, rest) => ((n : Int), rest)
  | rest => (number? 4 rest).map fun (n, rest) => ((n : Int), rest)

/-- The nanoseconds after a point, when there is one. Digits after the ninth are dropped. -/
def fraction? : List Char → Option (Nat × List Char)
  | '.' :: rest => do
    let (n, after) ← number? 9 rest
    let digits := rest.length - after.length
    return (n * Nat.pow 10 (9 - digits), after.dropWhile Char.isDigit)
  | rest => some (0, rest)

def twoDigits? : List Char → Option (Nat × List Char)
  | a :: b :: rest =>
    if a.isDigit && b.isDigit then some (digitValue a * 10 + digitValue b, rest) else none
  | _ => none

/-- Hours and minutes of an offset whose sign has been read, in seconds. -/
def offsetSize? (input : List Char) : Option (Nat × List Char) := do
  let (hours, rest) ← twoDigits? input
  let (minutes, rest) ← twoDigits? (rest.dropWhile fun c => c == ':' || isBlank c)
  if minutes < 60 then some (hours * 3600 + minutes * 60, rest) else none

def offset? (input : List Char) : Option (Int × List Char) :=
  if (input.take 3).map Char.toUpper = ['U', 'T', 'C'] then some (0, input.drop 3)
  else
    match input with
    | c :: rest =>
      if c = 'Z' ∨ c = 'z' then some (0, rest)
      else if c = '+' then (offsetSize? rest).map fun (n, rest) => ((n : Int), rest)
      else if c = '-' ∨ c = '−' then (offsetSize? rest).map fun (n, rest) => (-(n : Int), rest)
      else none
    | [] => none

def ofChars? (input : List Char) : Option Instant := do
  let (year, rest) ← year? input
  let rest ← mark? '-' rest
  let (month, rest) ← pair? rest
  let rest ← mark? '-' rest
  let (day, rest) ← pair? rest
  let rest ← match rest with
    | c :: rest => if c = 'T' ∨ c = 't' ∨ c = ' ' then some rest else none
    | [] => none
  let (hour, rest) ← pair? rest
  let rest ← mark? ':' rest
  let (minute, rest) ← pair? rest
  let rest ← mark? ':' rest
  let (second, rest) ← pair? rest
  let (nanos, rest) ← fraction? rest
  let (offset, rest) ← offset? (skipBlanks rest)
  if skipBlanks rest = [] ∧ offset.natAbs < 86400 then
    ofCivil? year month day hour minute second nanos offset
  else none

def ofText? (text : String) : Option Instant :=
  ofChars? text.toList

end OpcUa.Instant
