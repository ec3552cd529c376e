import OpcUa.Base64
import OpcUa.Text.Blank
import OpcUa.Text.Cut

/-!
# Textual armour

Bytes in base64 between a line that begins and a line that ends a block of some label. A certificate
is looked for line by line; a key is looked for in the text as a whole, where the labels have to
agree and headers may come first.
-/

namespace OpcUa.Armour

/-- Base64 in lines of 64 characters, each with a line feed. -/
def wrap (text : List Char) : List Char :=
  if text.length ≤ 64 then (if text.isEmpty then [] else text ++ ['\n'])
  else text.take 64 ++ '\n' :: wrap (text.drop 64)
termination_by text.length
decreasing_by simp only [List.length_drop]; omega

def beginMark : List Char := "-----BEGIN ".toList

def endMark : List Char := "-----END ".toList

def rule : List Char := "-----".toList

/-- The block with that label. -/
def encode (label : String) (bytes : List UInt8) : String :=
  String.ofList (beginMark ++ label.toList ++ rule ++ '\n' :: wrap (Base64.encode bytes).toList ++
    endMark ++ label.toList ++ rule ++ ['\n'])

structure Block where
  label : String
  bytes : List UInt8
  deriving DecidableEq, Repr

/-- Whether the first thing that is not blank begins a block. -/
def isArmoured (bytes : List UInt8) : Bool :=
  let isBlank (b : UInt8) := b == 0x20 || b == 0x09 || b == 0x0A || b == 0x0C || b == 0x0D
  "-----BEGIN".toUTF8.toList.isPrefixOf (bytes.dropWhile isBlank)

/-! ### Line by line -/

def line? (bytes : List UInt8) : Option (List Char) :=
  (String.fromUTF8? ⟨bytes.toArray⟩).map String.toList

def trimmedEnd (line : List Char) : List Char :=
  (line.reverse.dropWhile Text.isBlank).reverse

/-- What the lines spell up to one that ends a block, whatever the label there. -/
def payload? (done : List (List Char)) : List (List UInt8) → Option (List Char)
  | [] => none
  | bytes :: rest =>
    match line? bytes with
    | none => none
    | some line =>
      if endMark.isPrefixOf line then some done.reverse.flatten
      else payload? (trimmedEnd line :: done) rest

def blockOfLines? : List (List UInt8) → Option Block
  | [] => none
  | bytes :: rest =>
    match line? bytes with
    | none => none
    | some line =>
      if beginMark.isPrefixOf line then do
        let (label, _) ← Text.cutAt? rule (line.drop beginMark.length)
        let payload ← payload? [] rest
        return ⟨String.ofList label, ← Base64.decode? (String.ofList payload)⟩
      else blockOfLines? rest

/-- The first block, found line by line. -/
def firstBlock? (bytes : List UInt8) : Option Block :=
  blockOfLines? (Text.lines 0x0A bytes)

/-! ### In a text -/

/-- The headers before a blank line, and the text after it. -/
def splitHeaders (text : List Char) : List Char × List Char :=
  match Text.cutAt? ['\n', '\n'] text with
  | some parts => parts
  | none => (Text.cutAt? ['\r', '\n', '\r', '\n'] text).getD ([], text)

/-- A line of headers has a colon in it. -/
def areHeaders (text : List Char) : Bool :=
  (Text.lines '\n' text).all fun line => line.contains ':'

def isGap (c : Char) : Bool :=
  c == ' ' || c == '\t' || c == '\n' || c == '\r'

/-- The first block of a text, whatever stands around it. -/
def blockIn? (text : List Char) : Option Block := do
  let (_, rest) ← Text.cutAt? beginMark text
  let (label, rest) ← Text.cutAt? rule rest
  let (body, rest) ← Text.cutAt? endMark (rest.dropWhile isGap)
  let (endLabel, _) ← Text.cutAt? rule rest
  let (headers, data) := splitHeaders body
  if label.isEmpty || label != endLabel || !areHeaders headers then none
  let payload := ((Text.lines '\n' data).map trimmedEnd).flatten
  return ⟨String.ofList label, ← Base64.decode? (String.ofList payload)⟩

end OpcUa.Armour
