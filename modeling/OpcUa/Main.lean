import OpcUa.Command.Help
import OpcUa.Command.Run
import Std.Async.DNS
import Std.Async.System
import Std.Async.TCP
import Std.Time.DateTime.Timestamp

/-!
# The program

The command line, with the files and the network of the machine.
-/

open OpcUa Std.Async Std.Async.TCP

namespace Program

/-! ### The machine -/

/-- What the system says about an error of that number. -/
def systemText? (code : UInt32) : Option String :=
  (([ (2, "No such file or directory"), (13, "Permission denied"), (20, "Not a directory"),
      (21, "Is a directory"), (28, "No space left on device"), (30, "Read-only file system"),
      (98, "Address already in use"), (99, "Cannot assign requested address"),
      (101, "Network is unreachable"), (104, "Connection reset by peer"),
      (110, "Connection timed out"), (111, "Connection refused"),
      (113, "No route to host")] : List (UInt32 × String)).find? (·.1 == code)).map (·.2)

/-- The number of the system for an error, which may come with the opposite sign. -/
def codeOf? : IO.Error → Option UInt32
  | .alreadyExists _ code _ | .otherError code _ | .resourceBusy code _
  | .resourceVanished code _ | .unsupportedOperation code _ | .hardwareFault code _
  | .unsatisfiedConstraints code _ | .illegalOperation code _ | .protocolError code _
  | .timeExpired code _ | .interrupted _ code _ | .noFileOrDirectory _ code _
  | .invalidArgument _ code _ | .permissionDenied _ code _ | .resourceExhausted _ code _
  | .inappropriateType _ code _ | .noSuchThing _ code _ =>
    some (if code < 0x80000000 then code else 0 - code)
  | _ => none

def reason (error : IO.Error) : String :=
  match codeOf? error with
  | none => toString error
  | some code =>
    match systemText? code with
    | some text => s!"{text} (os error {code})"
    | none => toString error

/-- The sockets that commands have opened, the latest first. -/
abbrev Machine := ReaderT (IO.Ref (List Socket.Server)) IO

def attempted {α : Type} (action : IO α) : Machine (Except String α) := do
  try
    return .ok (← action)
  catch error =>
    return .error (reason error)

instance : FileSystem Machine where
  isPresent path := do
    try
      let _ ← IO.FS.Handle.mk path .read
      return true
    catch
      | .noFileOrDirectory .. => return false
      | _ => return true
  read path := attempted do return (← IO.FS.readBinFile path).toList
  write path bytes := attempted (IO.FS.writeBinFile path ⟨bytes.toArray⟩)
  makeDirectory path := attempted (IO.FS.createDirAll path)

def toNet (a : SocketAddress) : Std.Net.SocketAddress :=
  .v4 ⟨⟨#v[a.a, a.b, a.c, a.d]⟩, a.port⟩

def ofNet (port : UInt16) (address : Std.Net.IPv4Addr) : SocketAddress :=
  let o := address.octets
  ⟨o[0], o[1], o[2], o[3], port⟩

/-- The whole first frame of what a peer sends, or all of it if the peer stops before. -/
partial def receiveFrame (client : Socket.Client) (received : List UInt8) : IO (List UInt8) := do
  match Frame.header? received with
  | some (size, rest) =>
    if size.toNat ≤ rest.length then return received
  | none => pure ()
  match ← (client.recv? 65536).block with
  | some bytes => receiveFrame client (received ++ bytes.toList)
  | none => return received

/-- The first IPv4 address of a host. -/
def lookUp (host : String) (port : UInt16) : IO (Option SocketAddress) := do
  let found ← (DNS.getAddrInfo host "").block
  return found.toList.findSome? fun address =>
    match address with
    | .v4 address => some (ofNet port address)
    | .v6 _ => none

instance : Network Machine where
  bind address := do
    let sockets ← read
    attempted do
      let socket ← Socket.Server.mk
      socket.bind (toNet address)
      socket.listen 128
      sockets.modify (socket :: ·)
      match ← socket.getSockName with
      | .v4 bound => return ofNet bound.port bound.addr
      | .v6 _ => return address
  resolve text := do
    match SocketAddress.ofText? text, text.splitOn ":" with
    | some address, _ => return .ok (some address)
    | none, [host, port] =>
      match port.toNat? with
      | some port =>
        if port < 65536 then attempted (lookUp host (UInt16.ofNat port))
        else return .error "invalid port value"
      | none => return .error "invalid port value"
    | none, _ => return .error "invalid socket address"
  exchange address sent := attempted do
    let client ← Socket.Client.mk
    (client.connect (toNet address)).block
    (client.send ⟨sent.toArray⟩).block
    receiveFrame client []

/-! ### Serving -/

def present : IO Instant := do
  let nanos := (← Std.Time.Timestamp.now).toNanosecondsSinceUnixEpoch.val
  match Instant.of? (nanos / 1000000000) (nanos % 1000000000).toNat with
  | some now => return now
  | none => throw (IO.userError "the clock shows a year out of range")

/-- Answers the messages of one connection until it ends. -/
partial def converse (service : Service) (client : Socket.Client) (buffer : List UInt8) :
    IO Unit := do
  match Frame.header? buffer with
  | some (size, rest) =>
    if service.maxMessageSize < size then return
    if size.toNat ≤ rest.length then
      let now ← present
      match Message.read service.maxMessageSize now buffer with
      | (.ok message, rest) =>
        match (service.answer now message).write service.maxMessageSize with
        | .ok frame =>
          (client.send ⟨frame.toArray⟩).block
          converse service client rest
        | .error _ => return
      | (.error _, _) => return
    else receive
  | none => receive
where
  receive : IO Unit := do
    match ← (client.recv? 65536).block with
    | some bytes => converse service client (buffer ++ bytes.toList)
    | none => return

/-- Answers every client of a socket. -/
partial def acceptAll (service : Service) (socket : Socket.Server) : IO Unit := do
  let client ← socket.accept.block
  let _ ← IO.asTask (converse service client []) .dedicated
  acceptAll service socket

/-- Serves until the program is stopped. -/
def serveAll (listeners : List (Listener × Socket.Server)) : IO Unit := do
  let tasks ← listeners.mapM fun (listener, socket) =>
    IO.asTask (acceptAll listener.service socket) .dedicated
  for task in tasks do
    let _ ← IO.wait task

/-! ### Running -/

def drawNumber : IO Nat := do
  return Der.number (← IO.getRandomBytes 40).toList

def freshGuid : IO String := do
  let number := Der.number (← IO.getRandomBytes 16).toList
  return (Guid.ofRandom (BitVec.ofNat 128 number)).text

def environment : IO Environment := do
  let hostName ← Std.Async.System.getHostName
  return {
    now := ← present
    homeDirectory := (← IO.getEnv "HOME").getD "/tmp"
    hostName
    draw := ⟨← drawNumber, ← drawNumber⟩
    freshUri := s!"urn:{hostName}:{← freshGuid}"
    freshId := ← freshGuid }

def invoke (i : Invocation) : IO UInt32 := do
  let sockets ← IO.mkRef []
  let command : Console Machine (List Listener) := Command.run (← environment) i
  let (lines, result) ← command.outcome.run sockets
  for line in lines do IO.println line
  (← IO.getStdout).flush
  match result with
  | .ok listeners =>
    serveAll (listeners.zip (← sockets.get).reverse)
    return 0
  | .error text =>
    IO.eprintln s!"error: {text}"
    return 1

end Program

def main (arguments : List String) : IO UInt32 := do
  match Arguments.parse arguments with
  | .ok invocation => Program.invoke invocation
  | .error (.help topic) =>
    for line in topic.helpLines do IO.println line
    return 0
  | .error .version =>
    IO.println Topic.versionText
    return 0
  | .error (.wrong text) =>
    IO.eprintln s!"error: {text}"
    return 2
