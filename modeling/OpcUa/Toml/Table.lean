import OpcUa.Json.Basic

/-!
# TOML tables

Tables as they grow while a document is read. A table comes from a header of its own, from a longer
header that passes through it, or from a key with dots; what may still be added to it depends on
that.
-/

namespace OpcUa.Toml

inductive Origin where
  | header
  | passage
  | dots
  deriving DecidableEq, Repr

inductive Node where
  | value (value : Json)
  | table (origin : Origin) (members : List (String × Node))
  /-- Tables in a row, of which the last one still grows. -/
  | row (earlier : List (List (String × Node))) (last : List (String × Node))

abbrev Members := List (String × Node)

namespace Members

def find? (key : String) : Members → Option Node
  | [] => none
  | (name, node) :: rest => if name = key then some node else find? key rest

/-- The members with another node under a key that is there. -/
def replace (key : String) (node : Node) : Members → Members
  | [] => []
  | (name, old) :: rest =>
    if name = key then (name, node) :: rest else (name, old) :: replace key node rest

/-- Changes the table at the end of a path, and makes the tables on the way that are missing. A path
with dots does not lead through a table that has a header. -/
def descend (dots : Bool) (change : Origin → Members → Option Members) :
    List String → Origin → Members → Option Members
  | [], origin, members => change origin members
  | key :: path, _, members =>
    match find? key members with
    | none =>
      let origin : Origin := if dots then .dots else .passage
      (descend dots change path origin []).map fun inner =>
        members ++ [(key, .table origin inner)]
    | some (.value _) => none
    | some (.row earlier last) =>
      (descend dots change path .header last).map fun inner =>
        replace key (.row earlier inner) members
    | some (.table origin inner) =>
      if dots && origin == .header then none
      else
        (descend dots change path origin inner).map fun inner =>
          replace key (.table origin inner) members

/-- Adds a value under a key that is free. -/
def addValue (key : String) (value : Json) (members : Members) : Option Members :=
  match find? key members with
  | none => some (members ++ [(key, .value value)])
  | some _ => none

/-- Adds a value at the end of a path with dots. Only a table that comes from such a path can be
reached by one. -/
def define (path : List String) (key : String) (value : Json) (origin : Origin)
    (members : Members) : Option Members :=
  let add (origin : Origin) (members : Members) : Option Members :=
    if (origin == .dots) == path.isEmpty then none else addValue key value members
  descend true add path origin members

/-- Gives a table its header, which it may have only once. -/
def openTable (key : String) (_ : Origin) (members : Members) : Option Members :=
  match find? key members with
  | none => some (members ++ [(key, .table .header [])])
  | some (.table .passage inner) => some (replace key (.table .header inner) members)
  | some _ => none

/-- Starts the next table of a row. -/
def openRow (key : String) (_ : Origin) (members : Members) : Option Members :=
  match find? key members with
  | none => some (members ++ [(key, .row [] [])])
  | some (.row earlier last) => some (replace key (.row (earlier ++ [last]) []) members)
  | some _ => none

end Members

mutual

def Node.toJson : Node → Json
  | .value value => value
  | .table _ members => .object (membersJson members)
  | .row earlier last => .list (rowJson earlier ++ [.object (membersJson last)])

def membersJson : List (String × Node) → List (String × Json)
  | [] => []
  | (name, node) :: rest => (name, node.toJson) :: membersJson rest

def rowJson : List (List (String × Node)) → List Json
  | [] => []
  | members :: rest => .object (membersJson members) :: rowJson rest

end

end OpcUa.Toml
