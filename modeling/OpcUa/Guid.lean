import OpcUa.Hex

/-!
# Globally unique identifiers

A 128-bit number, written as 32 hexadecimal digits in groups of 8, 4, 4, 4 and 12.
-/

namespace OpcUa

structure Guid where
  value : BitVec 128
  deriving DecidableEq, Repr

namespace Guid

/-- The digits with a hyphen after the 8th, 12th, 16th and 20th. -/
def hyphenated (digits : List Char) : List Char :=
  digits.take 8 ++ '-' :: (digits.drop 8).take 4 ++ '-' :: (digits.drop 12).take 4 ++
    '-' :: (digits.drop 16).take 4 ++ '-' :: digits.drop 20

def text (g : Guid) : String :=
  String.ofList (hyphenated (Hex.ofNumber 32 g.value.toNat))

def ofDigits? (digits : List Char) : Option Guid :=
  (Hex.number? digits).map fun n => ⟨BitVec.ofNat 128 n⟩

def ofHyphenated? (text : List Char) : Option Guid :=
  let digits := text.take 8 ++ (text.drop 9).take 4 ++ (text.drop 14).take 4 ++
    (text.drop 19).take 4 ++ text.drop 24
  if text.length = 36 ∧ text = hyphenated digits then ofDigits? digits else none

/-- Reads 32 digits, or the hyphenated form bare, in braces or after `urn:uuid:`. -/
def read? (text : String) : Option Guid :=
  let cs := text.toList
  if cs.length = 32 then ofDigits? cs
  else if cs.length = 36 then ofHyphenated? cs
  else if cs.length = 38 then
    if cs.head? = some '{' ∧ cs.getLast? = some '}' then ofHyphenated? ((cs.drop 1).take 36) else none
  else if cs.length = 45 then
    if cs.take 9 = "urn:uuid:".toList then ofHyphenated? (cs.drop 9) else none
  else none

/-- The guid of random bits, which says that it is one. -/
def ofRandom (bits : BitVec 128) : Guid :=
  let marks : BitVec 128 := 0xF <<< 76 ||| 0x3 <<< 62
  ⟨bits &&& ~~~marks ||| 0x4 <<< 76 ||| 0x2 <<< 62⟩

end Guid

end OpcUa
