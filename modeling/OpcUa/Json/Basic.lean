/-!
# JSON values

Objects keep their members in written order and with repetitions, since a repeated member is an
error for a reader that knows it and none for a reader that skips it.
-/

namespace OpcUa

inductive Json where
  | null
  | bool (value : Bool)
  | int (value : Int)
  /-- A number that is no 64-bit integer, as it was spelled. -/
  | real (spelling : String)
  | text (value : String)
  | list (items : List Json)
  | object (members : List (String × Json))
  /-- Well formed, but it names no value: a string with an unpaired surrogate or with bytes that
  are no text, an object with such a key, or a number beyond every finite double. Only a reader
  that skips it accepts it. -/
  | unreadable
  deriving Inhabited

namespace Json

def ofStrings (items : List String) : Json :=
  .list (items.map .text)

def ofNat (n : Nat) : Json :=
  .int n

def ofOption {α : Type} (write : α → Json) : Option α → Json
  | none => .null
  | some a => write a

/-- The member `name` when there is a value for it, as part of an object's member list. -/
def present {α : Type} (name : String) (write : α → Json) : Option α → List (String × Json)
  | none => []
  | some a => [(name, write a)]

/-- The last member of that name. -/
def member? (name : String) : Json → Option Json
  | .object members => (members.reverse.find? (·.1 == name)).map (·.2)
  | _ => none

/-- The members of an object. -/
def membersOrNone : Json → List (String × Json)
  | .object members => members
  | _ => []

/-- The members without those that another one of the same name follows. -/
def lastMembers : List (String × Json) → List (String × Json)
  | [] => []
  | (name, value) :: rest =>
    if rest.any (·.1 == name) then lastMembers rest else (name, value) :: lastMembers rest

mutual

/-- The same value in which of an object's members of one name only the last is left. -/
def distinct : Json → Json
  | .list items => .list (distinctItems items)
  | .object members => .object (lastMembers (distinctMembers members))
  | leaf => leaf

def distinctItems : List Json → List Json
  | [] => []
  | item :: rest => distinct item :: distinctItems rest

def distinctMembers : List (String × Json) → List (String × Json)
  | [] => []
  | (name, value) :: rest => (name, distinct value) :: distinctMembers rest

end

mutual

/-- The same value with the members of every object in the order of their names. -/
def sorted : Json → Json
  | .list items => .list (sortedItems items)
  | .object members => .object ((sortedMembers members).mergeSort fun a b => decide (a.1 ≤ b.1))
  | leaf => leaf

def sortedItems : List Json → List Json
  | [] => []
  | item :: rest => sorted item :: sortedItems rest

def sortedMembers : List (String × Json) → List (String × Json)
  | [] => []
  | (name, value) :: rest => (name, sorted value) :: sortedMembers rest

end

mutual

/-- How many lists and objects stand around the innermost value, itself included. -/
def depth : Json → Nat
  | .list items => depthItems items + 1
  | .object members => depthMembers members + 1
  | _ => 0

def depthItems : List Json → Nat
  | [] => 0
  | item :: rest => max (depth item) (depthItems rest)

def depthMembers : List (String × Json) → Nat
  | [] => 0
  | (_, value) :: rest => max (depth value) (depthMembers rest)

end

mutual

/-- Everything in the value can be read. -/
def isReadable : Json → Bool
  | .unreadable => false
  | .list items => readableItems items
  | .object members => readableMembers members
  | _ => true

def readableItems : List Json → Bool
  | [] => true
  | item :: rest => isReadable item && readableItems rest

def readableMembers : List (String × Json) → Bool
  | [] => true
  | (_, value) :: rest => isReadable value && readableMembers rest

end

end Json

end OpcUa
