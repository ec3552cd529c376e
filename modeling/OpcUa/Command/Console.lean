import OpcUa.Files
import OpcUa.Server.Address

/-!
# Consoles

What commands work with: files, a network, and lines that are printed. A command that fails ends
with the text of its fault; the lines before it stay printed.
-/

namespace OpcUa

/-- A place that has a network. -/
class Network (m : Type → Type) where
  /-- Listens at an address; gives the one that is then in use. -/
  bind (address : SocketAddress) : m (Except String SocketAddress)
  /-- The first address that a text stands for. -/
  resolve (text : String) : m (Except String (Option SocketAddress))
  /-- Sends bytes to an address; gives the bytes of one frame that come back. -/
  exchange (address : SocketAddress) (sent : List UInt8) : m (Except String (List UInt8))

/-- A computation that prints lines, the latest first, and may fail. -/
abbrev Console (m : Type → Type) := ExceptT String (StateT (List String) m)

namespace Console

variable {m : Type → Type} [Monad m] {α : Type}

def print (line : String) : Console m Unit :=
  modify (line :: ·)

def ofExcept (result : Except String α) : Console m α :=
  match result with
  | .ok a => pure a
  | .error reason => throw reason

/-- A fault after what was being done, and with what lies beneath it. -/
def chain (contexts : List String) (message : String) (sources : List String) : String :=
  ": ".intercalate (contexts ++ message :: sources)

/-- The lines that are printed and the text of the fault that ends the command, if one does. -/
def outcome (c : Console m α) : m (List String × Except String α) := do
  let (result, lines) ← (c.run).run []
  return (lines.reverse, result)

end Console

end OpcUa
