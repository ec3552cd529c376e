import OpcUa.Config.Basic
import OpcUa.Encoding.Envelope
import OpcUa.Security.Thumbprint
import OpcUa.Wire.Message

/-!
# The catalogue

The types that have a JSON form, by name, for checking documents against them.
-/

namespace OpcUa

/-- A document that has been read as a type: how it is written, and its text for people where the
type has one. -/
structure Document where
  written : Json
  display : Option String := none

namespace Document

/-- Reads a value of a type. -/
abbrev Reader := Instant → Json → Option Document

def of (α : Type) [JsonForm α] : Reader := fun now value =>
  (JsonForm.ofJson? (α := α) now value).map fun a => { written := JsonForm.toJson a }

def shown (α : Type) [JsonForm α] [ToString α] : Reader := fun now value =>
  (JsonForm.ofJson? (α := α) now value).map fun a =>
    { written := JsonForm.toJson a, display := some (toString a) }

/-- A structure of one kind. -/
def ofKind {κ : Type} [StructureFamily κ] (k : κ) : Reader := fun now value =>
  (StructureFamily.ofJson? now k value).map fun a => { written := StructureFamily.toJson k a }

/-- The types besides structures. -/
def catalogue : List (String × Reader) := [
  ("Identifier", shown Identifier),
  ("NodeId", shown NodeId),
  ("ExpandedNodeId", shown ExpandedNodeId),
  ("Locale", shown Locale),
  ("LocalizedText", shown LocalizedText),
  ("SecurityPolicy", shown SecurityPolicy),
  ("TransportKind", shown TransportKind),
  ("StatusCode", shown StatusCode),
  ("Thumbprint", shown Thumbprint),
  ("NamespaceTable", of NamespaceTable),
  ("ServerTable", of ServerTable),
  ("MessageSecurityMode", of MessageSecurityMode),
  ("UserTokenType", of UserTokenType),
  ("HttpsSecurityPolicy", of HttpsSecurityPolicy),
  ("HostnameVerification", of HostnameVerification),
  ("EngineFlag", of EngineFlag),
  ("SecurityOffer", of SecurityOffer),
  ("TransportConfig", of TransportConfig),
  ("IdentityConfig", of IdentityConfig),
  ("ApplicationConfig", of ApplicationConfig),
  ("ExtensionObject", of (ExtensionObject StandardKind)),
  ("WireMessage", of Message)]

/-- The type of that name, in the catalogue or among the given kinds of structures. -/
def reader? {κ : Type} [StructureFamily κ] (kinds : List κ) (name : String) : Option Reader :=
  match catalogue.find? (·.1 == name) with
  | some (_, reader) => some reader
  | none => (kinds.find? fun k => (StructureFamily.descriptor k).name == name).map ofKind

end Document

end OpcUa
