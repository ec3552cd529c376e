import OpcUa.Json.Form

/-!
# Endpoint configurations

The limits that an endpoint is operated with. Times are in milliseconds and sizes in bytes.
-/

namespace OpcUa

structure EndpointConfiguration where
  operationTimeout : Int32 := 120000
  useBinaryEncoding : Bool := true
  maxArrayLength : UInt32 := 65535
  maxByteStringLength : UInt32 := 65535 * 16
  maxMessageSize : UInt32 := 65535 * 64
  maxStringLength : UInt32 := 65535
  maxBufferSize : UInt32 := 65535
  channelLifetime : UInt32 := 120000
  securityTokenLifetime : UInt32 := 3600000
  deriving DecidableEq, Repr

namespace EndpointConfiguration

def toJson (c : EndpointConfiguration) : Json :=
  .object [
    ("operation_timeout", .int c.operationTimeout.toInt),
    ("use_binary_encoding", .bool c.useBinaryEncoding),
    ("max_array_length", .ofNat c.maxArrayLength.toNat),
    ("max_byte_string_length", .ofNat c.maxByteStringLength.toNat),
    ("max_message_size", .ofNat c.maxMessageSize.toNat),
    ("max_string_length", .ofNat c.maxStringLength.toNat),
    ("max_buffer_size", .ofNat c.maxBufferSize.toNat),
    ("channel_lifetime", .ofNat c.channelLifetime.toNat),
    ("security_token_lifetime", .ofNat c.securityTokenLifetime.toNat)]

def ofJson? (value : Json) : Option EndpointConfiguration := do
  let [timeout, binary, array, byteString, message, string, buffer, channel, token] ←
    value.fields? [
      "operation_timeout", "use_binary_encoding", "max_array_length", "max_byte_string_length",
      "max_message_size", "max_string_length", "max_buffer_size", "channel_lifetime",
      "security_token_lifetime"] | none
  let unset : EndpointConfiguration := {}
  return {
    operationTimeout := ← Json.orElse unset.operationTimeout Json.asInt32? timeout
    useBinaryEncoding := ← Json.orElse unset.useBinaryEncoding Json.asBool? binary
    maxArrayLength := ← Json.orElse unset.maxArrayLength Json.asUInt32? array
    maxByteStringLength := ← Json.orElse unset.maxByteStringLength Json.asUInt32? byteString
    maxMessageSize := ← Json.orElse unset.maxMessageSize Json.asUInt32? message
    maxStringLength := ← Json.orElse unset.maxStringLength Json.asUInt32? string
    maxBufferSize := ← Json.orElse unset.maxBufferSize Json.asUInt32? buffer
    channelLifetime := ← Json.orElse unset.channelLifetime Json.asUInt32? channel
    securityTokenLifetime := ← Json.orElse unset.securityTokenLifetime Json.asUInt32? token }

instance : JsonForm EndpointConfiguration where
  toJson := toJson
  ofJson? _ := ofJson?

end EndpointConfiguration

end OpcUa
