import OpcUa.Json.Basic
import OpcUa.Hex

/-!
# Writing JSON

The compact form has no blanks. Strings escape the quote, the backslash and the control characters
below the space, the five common ones by a letter; every other character stands for itself.
-/

namespace OpcUa.Json

def escaped (c : Char) : List Char :=
  match c with
  | '"' => ['\\', '"']
  | '\\' => ['\\', '\\']
  | '\n' => ['\\', 'n']
  | '\r' => ['\\', 'r']
  | '\t' => ['\\', 't']
  | '\x08' => ['\\', 'b']
  | '\x0c' => ['\\', 'f']
  | c => if c.toNat < 0x20 then '\\' :: 'u' :: Hex.ofNumber 4 c.toNat else [c]

/-- A string literal after `out`. -/
def writeText (out : String) (text : String) : String :=
  (text.foldl (fun out c => (escaped c).foldl String.push out) (out.push '"')).push '"'

mutual

/-- The compact form of a value after `out`. -/
def write (out : String) : Json → String
  | .null => out ++ "null"
  | .bool true => out ++ "true"
  | .bool false => out ++ "false"
  | .int n => out ++ toString n
  | .real spelling => out ++ spelling
  | .text t => writeText out t
  | .list [] => out ++ "[]"
  | .list (item :: rest) => writeItems (write (out.push '[') item) rest
  | .object [] => out ++ "\x7b\x7d"
  | .object ((name, value) :: rest) =>
    writeMembers (write ((writeText (out.push '\x7b') name).push ':') value) rest
  | .unreadable => out ++ "null"

def writeItems (out : String) : List Json → String
  | [] => out.push ']'
  | item :: rest => writeItems (write (out.push ',') item) rest

def writeMembers (out : String) : List (String × Json) → String
  | [] => out.push '\x7d'
  | (name, value) :: rest =>
    writeMembers (write ((writeText (out.push ',') name).push ':') value) rest

end

def render (value : Json) : String :=
  write "" value

/-- The bytes of the compact form. -/
def bytes (value : Json) : List UInt8 :=
  (render value).toUTF8.toList

def indentBy (out : String) (depth : Nat) : String :=
  (List.replicate depth "  ").foldl (· ++ ·) (out.push '\n')

mutual

/-- The indented form of a value that stands `depth` levels deep, after `out`: two blanks a level,
one item or member a line, and empty lists and objects as in the compact form. -/
def writeIndented (out : String) (depth : Nat) : Json → String
  | .list (item :: rest) =>
    indentedItems (writeIndented (indentBy (out.push '[') (depth + 1)) (depth + 1) item) depth rest
  | .object ((name, value) :: rest) =>
    indentedMembers
      (writeIndented (writeText (indentBy (out.push '\x7b') (depth + 1)) name ++ ": ")
        (depth + 1) value) depth rest
  | leaf => write out leaf

def indentedItems (out : String) (depth : Nat) : List Json → String
  | [] => (indentBy out depth).push ']'
  | item :: rest =>
    indentedItems (writeIndented (indentBy (out.push ',') (depth + 1)) (depth + 1) item) depth rest

def indentedMembers (out : String) (depth : Nat) : List (String × Json) → String
  | [] => (indentBy out depth).push '\x7d'
  | (name, value) :: rest =>
    indentedMembers
      (writeIndented (writeText (indentBy (out.push ',') (depth + 1)) name ++ ": ")
        (depth + 1) value) depth rest

end

def renderIndented (value : Json) : String :=
  writeIndented "" 0 value

end OpcUa.Json
