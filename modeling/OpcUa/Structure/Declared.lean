import OpcUa.Json.Form
import OpcUa.Structure.Family

/-!
# Declared structures

A structure type can be declared as data: what identifies it and its fields, each with a name and a
type. The declared types are a family.
-/

namespace OpcUa

inductive FieldType where
  | text
  | uint8
  | uint32
  | int64
  /-- May be left out, and is null then. -/
  | optional (type : FieldType)
  deriving DecidableEq, Repr

namespace FieldType

abbrev Value : FieldType → Type
  | text => String
  | uint8 => UInt8
  | uint32 => UInt32
  | int64 => Int64
  | optional type => Option type.Value

@[reducible] def jsonForm : (t : FieldType) → JsonForm t.Value
  | text => inferInstanceAs (JsonForm String)
  | uint8 => inferInstanceAs (JsonForm UInt8)
  | uint32 => inferInstanceAs (JsonForm UInt32)
  | int64 => inferInstanceAs (JsonForm Int64)
  | optional type =>
    letI := type.jsonForm
    inferInstanceAs (JsonForm (Option type.Value))

def decEq : (t : FieldType) → DecidableEq t.Value
  | text => inferInstanceAs (DecidableEq String)
  | uint8 => inferInstanceAs (DecidableEq UInt8)
  | uint32 => inferInstanceAs (DecidableEq UInt32)
  | int64 => inferInstanceAs (DecidableEq Int64)
  | optional type =>
    letI := type.decEq
    inferInstanceAs (DecidableEq (Option type.Value))

/-- The value in a member of an object. -/
def read? (now : Instant) : (t : FieldType) → Option Json → Option t.Value
  | optional _, none => some none
  | _, none => none
  | t, some value => t.jsonForm.ofJson? now value

end FieldType

structure FieldDeclaration where
  name : String
  type : FieldType
  deriving DecidableEq, Repr

/-- One value for each field. -/
abbrev FieldValues : List FieldDeclaration → Type
  | [] => Unit
  | field :: rest => field.type.Value × FieldValues rest

namespace FieldValues

def members : (fields : List FieldDeclaration) → FieldValues fields → List (String × Json)
  | [], _ => []
  | field :: rest, (value, values) =>
    (field.name, field.type.jsonForm.toJson value) :: members rest values

def ofMembers? (now : Instant) :
    (fields : List FieldDeclaration) → List (Option Json) → Option (FieldValues fields)
  | [], _ => some ()
  | _ :: _, [] => none
  | field :: rest, member :: others => do
    return (← field.type.read? now member, ← ofMembers? now rest others)

def decEq : (fields : List FieldDeclaration) → DecidableEq (FieldValues fields)
  | [] => inferInstanceAs (DecidableEq Unit)
  | field :: rest =>
    letI := field.type.decEq
    letI := decEq rest
    inferInstanceAs (DecidableEq (field.type.Value × FieldValues rest))

end FieldValues

structure StructureDeclaration where
  descriptor : TypeDescriptor
  fields : List FieldDeclaration
  deriving DecidableEq, Repr

namespace StructureDeclaration

def toJson (d : StructureDeclaration) (values : FieldValues d.fields) : Json :=
  .object (FieldValues.members d.fields values)

def ofJson? (now : Instant) (d : StructureDeclaration) (value : Json) :
    Option (FieldValues d.fields) :=
  (value.fields? (d.fields.map FieldDeclaration.name)).bind (FieldValues.ofMembers? now d.fields)

instance : StructureFamily StructureDeclaration where
  Value d := FieldValues d.fields
  descriptor := descriptor
  toJson := toJson
  ofJson? := ofJson?
  decEq d := FieldValues.decEq d.fields

end StructureDeclaration

end OpcUa
