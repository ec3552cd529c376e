import OpcUa.Json.Record
import OpcUa.Time.Instant

/-!
# JSON forms
-/

namespace OpcUa

/-- A type whose values are written as JSON and read from it. Members that default to the present
take it from `now`. -/
class JsonForm (α : Type) where
  toJson : α → Json
  ofJson? (now : Instant) : Json → Option α

namespace JsonForm

variable {α : Type}

instance : JsonForm Json where
  toJson value := value
  ofJson? _ := some

instance : JsonForm String where
  toJson := .text
  ofJson? _ := Json.asText?

instance : JsonForm Bool where
  toJson := .bool
  ofJson? _ := Json.asBool?

/-- Numbers are 64-bit words. -/
instance : JsonForm Nat where
  toJson := .ofNat
  ofJson? _ := Json.asNat? UInt64.size

instance : JsonForm UInt8 where
  toJson n := .ofNat n.toNat
  ofJson? _ := Json.asUInt8?

instance : JsonForm UInt16 where
  toJson n := .ofNat n.toNat
  ofJson? _ := Json.asUInt16?

instance : JsonForm UInt32 where
  toJson n := .ofNat n.toNat
  ofJson? _ := Json.asUInt32?

instance : JsonForm Int64 where
  toJson n := .int n.toInt
  ofJson? _ := Json.asInt64?

instance [JsonForm α] : JsonForm (List α) where
  toJson items := .list (items.map toJson)
  ofJson? now := Json.asList? (ofJson? now)

/-- What is absent is null. -/
instance [JsonForm α] : JsonForm (Option α) where
  toJson := .ofOption toJson
  ofJson? now := Json.asOption? (ofJson? now)

end JsonForm

end OpcUa
