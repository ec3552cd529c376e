import OpcUa.NodeId.Basic

/-!
# Browse descriptions

Which references of a node a client wants to follow.
-/

namespace OpcUa

inductive BrowseDirection where
  | forward
  | inverse
  | both
  deriving DecidableEq, Repr

namespace BrowseDirection

def names : List (String × BrowseDirection) :=
  [("Forward", .forward), ("Inverse", .inverse), ("Both", .both)]

def name : BrowseDirection → String
  | .forward => "Forward"
  | .inverse => "Inverse"
  | .both => "Both"

def toJson (d : BrowseDirection) : Json :=
  .text d.name

def ofJson? : Json → Option BrowseDirection :=
  Json.asChoice? false names

end BrowseDirection

structure BrowseDescription where
  nodeId : NodeId := .null
  browseDirection : BrowseDirection := .forward
  referenceTypeId : NodeId := .null
  includeSubtypes : Bool := false
  nodeClassMask : UInt32 := 0
  resultMask : UInt32 := 0
  deriving DecidableEq, Repr

namespace BrowseDescription

def toJson (d : BrowseDescription) : Json :=
  .object [
    ("node_id", d.nodeId.toJson),
    ("browse_direction", d.browseDirection.toJson),
    ("reference_type_id", d.referenceTypeId.toJson),
    ("include_subtypes", .bool d.includeSubtypes),
    ("node_class_mask", .ofNat d.nodeClassMask.toNat),
    ("result_mask", .ofNat d.resultMask.toNat)]

def ofJson? (value : Json) : Option BrowseDescription := do
  let [node, direction, reference, subtypes, classes, results] ← value.fields? [
    "node_id", "browse_direction", "reference_type_id", "include_subtypes",
    "node_class_mask", "result_mask"] | none
  return {
    nodeId := ← Json.orElse .null NodeId.ofJson? node
    browseDirection := ← Json.orElse .forward BrowseDirection.ofJson? direction
    referenceTypeId := ← Json.orElse .null NodeId.ofJson? reference
    includeSubtypes := ← Json.orElse false Json.asBool? subtypes
    nodeClassMask := ← Json.orElse 0 Json.asUInt32? classes
    resultMask := ← Json.orElse 0 Json.asUInt32? results }

instance : JsonForm BrowseDescription where
  toJson := toJson
  ofJson? _ := ofJson?

end BrowseDescription

end OpcUa
