import OpcUa.Config.Basic
import OpcUa.Files
import OpcUa.Toml.Writer

/-!
# Configuration files

A configuration is kept in TOML. A file that is missing or that cannot be understood stands for the
defaults.
-/

namespace OpcUa.ApplicationConfig

def toText (c : ApplicationConfig) : String :=
  Toml.render c.toJson

def ofText? (text : String) : Option ApplicationConfig :=
  (Toml.parse? text).bind ofJson?

/-- The configuration in a file's bytes. -/
def ofBytes? (bytes : List UInt8) : Option ApplicationConfig :=
  (String.fromUTF8? ⟨bytes.toArray⟩).bind ofText?

/-- The configuration in a file. -/
def load (read : FileReader) (path : String) : ApplicationConfig :=
  match read path with
  | .ok bytes => (ofBytes? bytes).getD {}
  | .error _ => {}

end OpcUa.ApplicationConfig
