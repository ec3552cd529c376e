import OpcUa.Json.Form

/-!
# Discovery configurations

The base of the family has no members.
-/

namespace OpcUa

structure DiscoveryConfiguration where
  deriving DecidableEq, Repr

namespace DiscoveryConfiguration

def toJson (_ : DiscoveryConfiguration) : Json :=
  .object []

def ofJson? (value : Json) : Option DiscoveryConfiguration :=
  (value.fields? []).map fun _ => {}

instance : JsonForm DiscoveryConfiguration where
  toJson := toJson
  ofJson? _ := ofJson?

end DiscoveryConfiguration

structure MdnsDiscoveryConfiguration where
  serverName : Option String := none
  serverCapabilities : List String := []
  deriving DecidableEq, Repr

namespace MdnsDiscoveryConfiguration

def toJson (c : MdnsDiscoveryConfiguration) : Json :=
  .object (Json.present "mdns_server_name" .text c.serverName ++
    [("server_capabilities", .ofStrings c.serverCapabilities)])

def ofJson? (value : Json) : Option MdnsDiscoveryConfiguration := do
  let [name, capabilities] ← value.fields? ["mdns_server_name", "server_capabilities"] | none
  return {
    serverName := ← Json.optional Json.asText? name
    serverCapabilities := ← Json.orElse [] Json.asTexts? capabilities }

instance : JsonForm MdnsDiscoveryConfiguration where
  toJson := toJson
  ofJson? _ := ofJson?

end MdnsDiscoveryConfiguration

end OpcUa
