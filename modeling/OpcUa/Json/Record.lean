import OpcUa.Base64
import OpcUa.Json.Basic

/-!
# Reading typed values

A record is read from an object, whose unknown members are skipped and whose known ones may occur
once, or from a list that gives its members in declared order and may stop early. A choice is read
from its name alone or from an object whose only member it names.
-/

namespace OpcUa.Json

variable {α : Type}

def asText? : Json → Option String
  | .text t => some t
  | _ => none

def asBool? : Json → Option Bool
  | .bool b => some b
  | _ => none

/-- An integer from zero up to, not including, `bound`. -/
def asNat? (bound : Nat) : Json → Option Nat
  | .int n => if 0 ≤ n ∧ n < bound then some n.toNat else none
  | _ => none

def asUInt8? (value : Json) : Option UInt8 :=
  (asNat? UInt8.size value).map UInt8.ofNat

def asUInt16? (value : Json) : Option UInt16 :=
  (asNat? UInt16.size value).map UInt16.ofNat

def asUInt32? (value : Json) : Option UInt32 :=
  (asNat? UInt32.size value).map UInt32.ofNat

def asInt32? : Json → Option Int32
  | .int n =>
    if Int32.minValue.toInt ≤ n ∧ n ≤ Int32.maxValue.toInt then some (Int32.ofInt n) else none
  | _ => none

def asInt64? : Json → Option Int64
  | .int n =>
    if Int64.minValue.toInt ≤ n ∧ n ≤ Int64.maxValue.toInt then some (Int64.ofInt n) else none
  | _ => none

def asList? (read : Json → Option α) : Json → Option (List α)
  | .list items => items.mapM read
  | _ => none

def asTexts? : Json → Option (List String) :=
  asList? asText?

/-- Bytes stand as a text in base64. -/
def asBytes? : Json → Option (List UInt8)
  | .text t => Base64.decode? t
  | _ => none

def ofBytes (bytes : List UInt8) : Json :=
  .text (Base64.encode bytes)

def asOption? (read : Json → Option α) : Json → Option (Option α)
  | .null => some none
  | value => (read value).map some

/-! ### Records -/

/-- The only member of that name, if there is one; a second one is an error. -/
def single? (name : String) (members : List (String × Json)) : Option (Option Json) :=
  match members.filter (·.1 == name) with
  | [] => some none
  | [(_, value)] => some (some value)
  | _ => none

/-- What stands for each of the declared members. -/
def fields? (names : List String) : Json → Option (List (Option Json))
  | .object members => names.mapM fun name => single? name members
  | .list items =>
    if items.length ≤ names.length then
      some (items.map some ++ List.replicate (names.length - items.length) none)
    else none
  | _ => none

/-- A value can be kept for a second reading: all of it can be read, and it is not nested
deeper than `limit`. -/
def isKept (limit : Nat) (value : Json) : Bool :=
  value.isReadable && decide (value.depth ≤ limit)

/-- How deep lists and objects may be nested in a record whose members are kept. -/
def nestingLimit : Nat := 127

/-- What stands for each of the members in a record made of several, of which only `own` are read
at once and all others are kept first. -/
def keptFields? (own others : List String) : Json → Option (List (Option Json))
  | .object members =>
    if members.all fun (name, value) => own.contains name || isKept (nestingLimit - 1) value then
      (own ++ others).mapM fun name => single? name members
    else none
  | _ => none

def required (read : Json → Option α) : Option Json → Option α
  | none => none
  | some value => read value

def orElse (fallback : α) (read : Json → Option α) : Option Json → Option α
  | none => some fallback
  | some value => read value

/-- A member that may be absent or null. -/
def optional (read : Json → Option α) : Option Json → Option (Option α)
  | none => some none
  | some value => asOption? read value

/-! ### Choices -/

/-- The name of a choice and what it carries. -/
def choice? : Json → Option (String × Option Json)
  | .text name => some (name, none)
  | .object [(name, value)] => some (name, some value)
  | _ => none

/-- The name of a choice that carries nothing. In a value that was kept for a second reading, an
empty object stands for nothing as well as null does. -/
def plainChoice? (kept : Bool) (value : Json) : Option String :=
  match choice? value with
  | some (name, none) => some name
  | some (name, some .null) => some name
  | some (name, some (.object [])) => if kept then some name else none
  | _ => none

/-- The alternative that a text names. -/
def named? (all : List (String × α)) (name : String) : Option α :=
  (all.find? (·.1 == name)).map (·.2)

def asChoice? (kept : Bool) (all : List (String × α)) (value : Json) : Option α :=
  (plainChoice? kept value).bind (named? all)

end OpcUa.Json
