import OpcUa.Json.Token

/-!
# Reading JSON

The grammar of values over tokens. Nothing but blanks may follow the value of a text.
-/

namespace OpcUa.Json

/-- An object whose keys are all texts; otherwise it cannot be read. -/
def ofMembers (members : List (Option String × Json)) : Json :=
  match members.mapM fun (key, value) => key.map (·, value) with
  | some members => .object members
  | none => .unreadable

mutual

/-- The value that starts the input, and the rest. Each call takes a step, and reads a token or
hands the input on once. -/
def ofTokens : Nat → List Token → Option (Json × List Token)
  | 0, _ => none
  | _ + 1, .atom value :: rest => some (value, rest)
  | _ + 1, .text (some t) :: rest => some (.text t, rest)
  | _ + 1, .text none :: rest => some (.unreadable, rest)
  | _ + 1, .openList :: .closeList :: rest => some (.list [], rest)
  | steps + 1, .openList :: rest => itemsOf steps [] rest
  | _ + 1, .openObject :: .closeObject :: rest => some (.object [], rest)
  | steps + 1, .openObject :: rest => membersOf steps [] rest
  | _ + 1, _ => none

/-- The list of which the items of `done` have been read, in reverse, and the next one stands
first. -/
def itemsOf : Nat → List Json → List Token → Option (Json × List Token)
  | 0, _, _ => none
  | steps + 1, done, input =>
    match ofTokens steps input with
    | some (item, .comma :: rest) => itemsOf steps (item :: done) rest
    | some (item, .closeList :: rest) => some (.list (item :: done).reverse, rest)
    | _ => none

/-- The object of which the members of `done` have been read, in reverse, and the next one stands
first. -/
def membersOf : Nat → List (Option String × Json) → List Token → Option (Json × List Token)
  | 0, _, _ => none
  | steps + 1, done, .text key :: .colon :: input =>
    match ofTokens steps input with
    | some (value, .comma :: rest) => membersOf steps ((key, value) :: done) rest
    | some (value, .closeObject :: rest) => some (ofMembers ((key, value) :: done).reverse, rest)
    | _ => none
  | _ + 1, _, _ => none

end

def parse? (input : List UInt8) : Option Json := do
  let tokens ← tokens? input
  match ofTokens (2 * tokens.length + 1) tokens with
  | some (value, []) => some value
  | _ => none

def parseText? (text : String) : Option Json :=
  parse? text.toUTF8.toList

end OpcUa.Json
