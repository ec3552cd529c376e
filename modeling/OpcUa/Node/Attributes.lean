import OpcUa.Locale

/-!
# Node attributes

What a new node is given. The attributes of views, methods and reference types extend those of all
nodes, and their members stand side by side in one record.
-/

namespace OpcUa

structure NodeAttributes where
  /-- A bit mask of the attributes that are set. -/
  specifiedAttributes : UInt32 := 0
  displayName : LocalizedText := {}
  description : LocalizedText := {}
  writeMask : UInt32 := 0
  userWriteMask : UInt32 := 0
  deriving DecidableEq, Repr

namespace NodeAttributes

def named (displayName : String) : NodeAttributes where
  displayName := .invariant displayName

def memberNames : List String :=
  ["specified_attributes", "display_name", "description", "write_mask", "user_write_mask"]

def members (a : NodeAttributes) : List (String × Json) := [
  ("specified_attributes", .ofNat a.specifiedAttributes.toNat),
  ("display_name", a.displayName.toJson),
  ("description", a.description.toJson),
  ("write_mask", .ofNat a.writeMask.toNat),
  ("user_write_mask", .ofNat a.userWriteMask.toNat)]

/-- Reads what stands for each of the members. -/
def ofFields? (fields : List (Option Json)) : Option NodeAttributes := do
  let [specified, name, description, mask, userMask] := fields | none
  return {
    specifiedAttributes := ← Json.orElse 0 Json.asUInt32? specified
    displayName := ← Json.orElse {} LocalizedText.ofJson? name
    description := ← Json.orElse {} LocalizedText.ofJson? description
    writeMask := ← Json.orElse 0 Json.asUInt32? mask
    userWriteMask := ← Json.orElse 0 Json.asUInt32? userMask }

def toJson (a : NodeAttributes) : Json :=
  .object a.members

def ofJson? (value : Json) : Option NodeAttributes := do
  ofFields? (← value.fields? memberNames)

instance : JsonForm NodeAttributes where
  toJson := toJson
  ofJson? _ := ofJson?

end NodeAttributes

structure ViewAttributes where
  base : NodeAttributes := {}
  containsNoLoops : Bool := false
  eventNotifier : UInt8 := 0
  deriving DecidableEq, Repr

namespace ViewAttributes

def toJson (a : ViewAttributes) : Json :=
  .object (a.base.members ++ [
    ("contains_no_loops", .bool a.containsNoLoops),
    ("event_notifier", .ofNat a.eventNotifier.toNat)])

def ofJson? (value : Json) : Option ViewAttributes := do
  let loops :: notifier :: base ←
    value.keptFields? ["contains_no_loops", "event_notifier"] NodeAttributes.memberNames | none
  return {
    base := ← NodeAttributes.ofFields? base
    containsNoLoops := ← Json.orElse false Json.asBool? loops
    eventNotifier := ← Json.orElse 0 Json.asUInt8? notifier }

instance : JsonForm ViewAttributes where
  toJson := toJson
  ofJson? _ := ofJson?

end ViewAttributes

structure MethodAttributes where
  base : NodeAttributes := {}
  executable : Bool := false
  userExecutable : Bool := false
  deriving DecidableEq, Repr

namespace MethodAttributes

def toJson (a : MethodAttributes) : Json :=
  .object (a.base.members ++ [
    ("executable", .bool a.executable),
    ("user_executable", .bool a.userExecutable)])

def ofJson? (value : Json) : Option MethodAttributes := do
  let executable :: userExecutable :: base ←
    value.keptFields? ["executable", "user_executable"] NodeAttributes.memberNames | none
  return {
    base := ← NodeAttributes.ofFields? base
    executable := ← Json.orElse false Json.asBool? executable
    userExecutable := ← Json.orElse false Json.asBool? userExecutable }

instance : JsonForm MethodAttributes where
  toJson := toJson
  ofJson? _ := ofJson?

end MethodAttributes

structure ReferenceTypeAttributes where
  base : NodeAttributes := {}
  isAbstract : Bool := false
  symmetric : Bool := false
  inverseName : LocalizedText := {}
  deriving DecidableEq, Repr

namespace ReferenceTypeAttributes

def toJson (a : ReferenceTypeAttributes) : Json :=
  .object (a.base.members ++ [
    ("is_abstract", .bool a.isAbstract),
    ("symmetric", .bool a.symmetric),
    ("inverse_name", a.inverseName.toJson)])

def ofJson? (value : Json) : Option ReferenceTypeAttributes := do
  let isAbstract :: symmetric :: inverse :: base ←
    value.keptFields? ["is_abstract", "symmetric", "inverse_name"] NodeAttributes.memberNames
    | none
  return {
    base := ← NodeAttributes.ofFields? base
    isAbstract := ← Json.orElse false Json.asBool? isAbstract
    symmetric := ← Json.orElse false Json.asBool? symmetric
    inverseName := ← Json.orElse {} LocalizedText.ofJson? inverse }

instance : JsonForm ReferenceTypeAttributes where
  toJson := toJson
  ofJson? _ := ofJson?

end ReferenceTypeAttributes

end OpcUa
