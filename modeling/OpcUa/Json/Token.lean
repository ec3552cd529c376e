import OpcUa.Hex
import OpcUa.Json.Numeral

/-!
# JSON tokens

The lexical grammar over bytes: punctuation, literal names, numbers and strings, with blanks
between them.
-/

namespace OpcUa.Json

inductive Token where
  | openList
  | closeList
  | openObject
  | closeObject
  | colon
  | comma
  | atom (value : Json)
  /-- A string literal; without content when it names no text. -/
  | text (content : Option String)
  deriving Inhabited

/-! ### Strings -/

/-- The number of four hexadecimal digits that start the input. -/
def hexUnit? (input : List UInt8) : Option Nat :=
  if input.length < 4 then none else Hex.number? ((input.take 4).map fun b => Char.ofNat b.toNat)

def isLeadSurrogate (unit : Nat) : Bool :=
  0xD800 ≤ unit && unit < 0xDC00

def isTrailSurrogate (unit : Nat) : Bool :=
  0xDC00 ≤ unit && unit < 0xE000

/-- The trail surrogate that an escape at the start of the input gives. -/
def trailUnit? (input : List UInt8) : Option Nat :=
  if input.take 2 = [0x5C, 0x75] then (hexUnit? ((input.drop 2).take 4)).filter isTrailSurrogate
  else none

/-- The character of a surrogate pair. -/
def surrogatePair (lead trail : Nat) : Char :=
  Char.ofNat (0x10000 + (lead - 0xD800) * 0x400 + (trail - 0xDC00))

def letterEscape? (letter : UInt8) : Option UInt8 :=
  if letter = 0x22 ∨ letter = 0x5C ∨ letter = 0x2F then some letter
  else if letter = 0x62 then some 0x08
  else if letter = 0x66 then some 0x0C
  else if letter = 0x6E then some 0x0A
  else if letter = 0x72 then some 0x0D
  else if letter = 0x74 then some 0x09
  else none

/-- The bytes of a character before `done`, in reverse. -/
def prepend (c : Char) (done : List UInt8) : List UInt8 :=
  (String.utf8EncodeChar c).reverse ++ done

/-- The text of the bytes of `done`, in reverse. -/
def textOf? (done : List UInt8) : Option String :=
  String.fromUTF8? ⟨done.reverse.toArray⟩

/-- The string literal whose opening quote has been read, and the input after its closing quote.
`done` holds its bytes so far in reverse; `sound` is false once an escape has named no
character. -/
def scanText (done : List UInt8) (sound : Bool) (input : List UInt8) :
    Option (Option String × List UInt8) :=
  match input with
  | [] => none
  | b :: rest =>
    if b = 0x22 then
      some (if sound then textOf? done else none, rest)
    else if b = 0x5C then
      match rest with
      | [] => none
      | letter :: tail =>
        if letter = 0x75 then
          match hexUnit? (tail.take 4) with
          | none => none
          | some unit =>
            if isLeadSurrogate unit then
              match trailUnit? (tail.drop 4) with
              | some trail =>
                scanText (prepend (surrogatePair unit trail) done) sound (tail.drop 10)
              | none => scanText done false (tail.drop 4)
            else if isTrailSurrogate unit then scanText done false (tail.drop 4)
            else scanText (prepend (Char.ofNat unit) done) sound (tail.drop 4)
        else
          match letterEscape? letter with
          | some byte => scanText (byte :: done) sound tail
          | none => none
    else if b < 0x20 then none
    else scanText (b :: done) sound rest
termination_by input.length
decreasing_by all_goals simp only [List.length_cons, List.length_drop]; omega

/-! ### Tokens -/

def scanNumber (negative : Bool) (input : List UInt8) : Option (Token × List UInt8) := do
  let (whole, rest) ← scanWhole input
  let (fraction, rest) ← scanFraction rest
  let (exponent, rest) ← scanExponent rest
  return (.atom (Numeral.value { negative, whole, fraction, exponent }), rest)

def isBlankByte (b : UInt8) : Bool :=
  b == 0x20 || b == 0x0A || b == 0x0D || b == 0x09

/-- The input after the name, when it starts with it. -/
def afterName? (name : String) (input : List UInt8) : Option (List UInt8) :=
  let bytes := name.toUTF8.toList
  if input.take bytes.length = bytes then some (input.drop bytes.length) else none

/-- The token that starts with `b`. -/
def scanToken (b : UInt8) (rest : List UInt8) : Option (Token × List UInt8) :=
  if b = 0x5B then some (.openList, rest)
  else if b = 0x5D then some (.closeList, rest)
  else if b = 0x7B then some (.openObject, rest)
  else if b = 0x7D then some (.closeObject, rest)
  else if b = 0x3A then some (.colon, rest)
  else if b = 0x2C then some (.comma, rest)
  else if b = 0x22 then (scanText [] true rest).map fun (content, rest) => (.text content, rest)
  else if b = 0x2D then scanNumber true rest
  else if isDigit b then scanNumber false (b :: rest)
  else if b = 0x6E then (afterName? "ull" rest).map fun rest => (.atom .null, rest)
  else if b = 0x74 then (afterName? "rue" rest).map fun rest => (.atom (.bool true), rest)
  else if b = 0x66 then (afterName? "alse" rest).map fun rest => (.atom (.bool false), rest)
  else none

/-- The tokens of an input, put before `done` in reverse. Every step reads a byte, so as many steps
as there are bytes are enough. -/
def scanInto : Nat → List Token → List UInt8 → Option (List Token)
  | _, done, [] => some done.reverse
  | 0, _, _ :: _ => none
  | steps + 1, done, b :: rest =>
    if isBlankByte b then scanInto steps done rest
    else
      match scanToken b rest with
      | some (token, rest) => scanInto steps (token :: done) rest
      | none => none

def tokens? (input : List UInt8) : Option (List Token) :=
  scanInto input.length [] input

end OpcUa.Json
