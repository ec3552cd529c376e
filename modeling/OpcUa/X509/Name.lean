import OpcUa.Der.Element
import OpcUa.Hex

/-!
# Distinguished names

A name is a sequence of sets of attributes. In text the sets are joined by commas and the attributes
of one set by plus signs; nothing is escaped.
-/

namespace OpcUa.X509

structure Attribute where
  /-- The content of an object id. -/
  type : List UInt8
  value : Der.Element
  deriving DecidableEq, Repr

abbrev Name := List (List Attribute)

/-- The numbers of which each is spelled by seven bits a byte, all but the last with the top bit
set; a number that is cut off is left out. -/
def arcs (value : Nat) : List UInt8 → List Nat
  | [] => []
  | b :: rest =>
    let value := value * 128 + b.toNat % 128
    if b < 0x80 then value :: arcs 0 rest else arcs value rest

/-- An object id with points between its numbers. -/
def objectIdText : List UInt8 → String
  | [] => ""
  | first :: rest =>
    ".".intercalate (((first.toNat / 40) :: (first.toNat % 40) :: arcs 0 rest).map toString)

/-- The names that attribute types go by. -/
def attributeNames : List (List UInt8 × String) := [
  ([0x55, 4, 3], "CN"),
  ([0x55, 4, 6], "C"),
  ([0x55, 4, 7], "L"),
  ([0x55, 4, 8], "ST"),
  ([0x55, 4, 10], "O"),
  ([0x55, 4, 11], "OU"),
  ([0x55, 4, 5], "serialNumber"),
  ([0x2A, 0x86, 0x48, 0x86, 0xF7, 0x0D, 1, 9, 1], "Email"),
  ([9, 0x92, 0x26, 0x89, 0x93, 0xF2, 0x2C, 0x64, 1, 25], "DC"),
  ([0x55, 4, 9], "streetAddress"),
  ([0x55, 4, 12], "title"),
  ([0x55, 4, 42], "givenName"),
  ([0x55, 4, 4], "surname")]

def Attribute.name (a : Attribute) : String :=
  match attributeNames.find? (·.1 == a.type) with
  | some (_, name) => name
  | none => "OID(" ++ objectIdText a.type ++ ")"

/-- The tag numbers of values that hold text in UTF-8. -/
def textTags : List UInt8 := [7, 12, 18, 19, 20, 21, 22, 25, 26, 27]

def utf8? (bytes : List UInt8) : Option String :=
  String.fromUTF8? ⟨bytes.toArray⟩

/-- A value that is no text stands in hexadecimal capitals. -/
def valueText? (value : Der.Element) : Option String :=
  if textTags.contains (value.tag &&& 0x1F) then utf8? value.content
  else some ((Hex.encode value.content).map Char.toUpper)

def Attribute.text? (a : Attribute) : Option String :=
  (valueText? a.value).map fun value => a.name ++ "=" ++ value

def nameText? (name : Name) : Option String := do
  let sets ← name.mapM fun set => (set.mapM Attribute.text?).map (" + ".intercalate ·)
  return ", ".intercalate sets

/-- The text of a name, or what stands for a name with a value that is no UTF-8. -/
def nameText (name : Name) : String :=
  (nameText? name).getD "<X509Error: Invalid X.509 name>"

def attribute? (input : List UInt8) : Option (Attribute × List UInt8) := do
  let (content, rest) ← Der.expect? Der.sequence input
  let (type, content) ← Der.expect? Der.objectId content
  let (value, _) ← Der.element? content
  return (⟨type, value⟩, rest)

def attributes? (input : List UInt8) : Option (List Attribute × List UInt8) := do
  let (content, rest) ← Der.expect? Der.set input
  match Der.many attribute? content.length content with
  | ([], _) => none
  | (attributes, _) => some (attributes, rest)

/-- A name ends before the first set that cannot be read. -/
def name? (input : List UInt8) : Option (Name × List UInt8) := do
  let (content, rest) ← Der.expect? Der.sequence input
  return ((Der.many attributes? content.length content).1, rest)

end OpcUa.X509
