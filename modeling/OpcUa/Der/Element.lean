/-!
# Elements of the distinguished encoding

An element is a tag, the length of its content, and the content. Certificates are read with lengths
in any definite form; keys are read with lengths in the shortest form alone, of two bytes at most.
-/

namespace OpcUa.Der

structure Element where
  /-- The first byte: class, form and number of the tag. -/
  tag : UInt8
  content : List UInt8
  deriving DecidableEq, Repr

def boolean : UInt8 := 0x01
def integer : UInt8 := 0x02
def bitString : UInt8 := 0x03
def octetString : UInt8 := 0x04
def objectId : UInt8 := 0x06
def utcTime : UInt8 := 0x17
def generalizedTime : UInt8 := 0x18
def sequence : UInt8 := 0x30
def set : UInt8 := 0x31

/-- A constructed tag of the context. -/
def context (number : UInt8) : UInt8 :=
  0xA0 ||| number

/-- The number that bytes spell, the high one first. -/
def number (bytes : List UInt8) : Nat :=
  bytes.foldl (fun n b => n * 256 + b.toNat) 0

/-- The bytes of a number, the high one first and not zero. -/
def numberBytes (n : Nat) : List UInt8 :=
  if n = 0 then [] else numberBytes (n / 256) ++ [UInt8.ofNat (n % 256)]
termination_by n

/-- The shortest form of a length. -/
def lengthBytes (length : Nat) : List UInt8 :=
  if length < 0x80 then [UInt8.ofNat length]
  else UInt8.ofNat (0x80 + (numberBytes length).length) :: numberBytes length

namespace Element

def bytes (e : Element) : List UInt8 :=
  e.tag :: (lengthBytes e.content.length ++ e.content)

end Element

/-- An element of the given content in bytes. -/
def wrap (tag : UInt8) (content : List UInt8) : List UInt8 :=
  (⟨tag, content⟩ : Element).bytes

/-- A sequence of the given elements in bytes. -/
def sequenceOf (elements : List (List UInt8)) : List UInt8 :=
  wrap sequence elements.flatten

/-- The length that starts the input, and the rest. -/
def length? : List UInt8 → Option (Nat × List UInt8)
  | [] => none
  | first :: rest =>
    if first < 0x80 then some (first.toNat, rest)
    else
      let count := first.toNat - 0x80
      if count = 0 ∨ count = 127 ∨ rest.length < count then none
      else some (number (rest.take count), rest.drop count)

/-- What follows a tag number of several bytes. -/
def skipTagNumber (input : List UInt8) : List UInt8 :=
  (input.dropWhile (0x80 ≤ ·)).drop 1

/-- The element that starts the input, and the rest. -/
def element? : List UInt8 → Option (Element × List UInt8)
  | [] => none
  | tag :: rest => do
    let (length, rest) ← length? (if tag &&& 0x1F = 0x1F then skipTagNumber rest else rest)
    if rest.length < length then none else some (⟨tag, rest.take length⟩, rest.drop length)

/-- The content of the element that starts the input, which must have the tag; and the rest. -/
def expect? (tag : UInt8) (input : List UInt8) : Option (List UInt8 × List UInt8) :=
  match element? input with
  | some (e, rest) => if e.tag = tag then some (e.content, rest) else none
  | none => none

/-- The content, if there is an element with the tag at the start of the input. -/
def maybe? (tag : UInt8) (input : List UInt8) : Option (Option (List UInt8) × List UInt8) :=
  if input.head? = some tag then (expect? tag input).map fun (content, rest) => (some content, rest)
  else some (none, input)

/-- What `read` reads from the input as often as it can, at most `steps` times; and the rest. -/
def many {α : Type} (read : List UInt8 → Option (α × List UInt8)) :
    Nat → List UInt8 → List α × List UInt8
  | 0, input => ([], input)
  | steps + 1, input =>
    match read input with
    | none => ([], input)
    | some (a, rest) =>
      let (more, rest) := many read steps rest
      (a :: more, rest)

/-- The bits of a bit string in whole bytes; those left over in the last byte must be zero. -/
def bits? : List UInt8 → Option (List UInt8)
  | [] => none
  | unused :: data =>
    match data.getLast? with
    | none => if unused = 0 then some [] else none
    | some last =>
      if unused ≤ 8 ∧ last.toNat % 1 <<< unused.toNat = 0 then some data else none

/-! ### The shortest form -/

/-- As `expect?`, for an element in its shortest form. -/
def minimal? (tag : UInt8) (input : List UInt8) : Option (List UInt8 × List UInt8) :=
  match expect? tag input with
  | some (content, rest) =>
    if content.length < 65536 ∧ wrap tag content ++ rest = input then some (content, rest)
    else none
  | none => none

/-- The content of the element that the input is. -/
def whole? (tag : UInt8) (input : List UInt8) : Option (List UInt8) :=
  match minimal? tag input with
  | some (content, []) => some content
  | _ => none

/-- An integer that is not negative, in its shortest form. -/
def natural? (input : List UInt8) : Option (Nat × List UInt8) :=
  match minimal? integer input with
  | some ([], _) => none
  | some ([b], rest) => if b < 0x80 then some (b.toNat, rest) else none
  | some (a :: b :: more, rest) =>
    if a < 0x80 ∧ (a ≠ 0 ∨ 0x80 ≤ b) then some (number (a :: b :: more), rest) else none
  | none => none

/-- A natural number as an integer in its shortest form. -/
def ofNatural (n : Nat) : Element where
  tag := integer
  content :=
    match numberBytes n with
    | [] => [0]
    | b :: rest => if b < 0x80 then b :: rest else 0 :: b :: rest

end OpcUa.Der
