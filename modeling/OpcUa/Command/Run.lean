import OpcUa.Application.Setup
import OpcUa.Command.Arguments
import OpcUa.Command.Console
import OpcUa.Config.Text
import OpcUa.Security.IdentityFiles
import OpcUa.Security.Mint
import OpcUa.Server.Session

/-!
# Commands

What each command does, wherever there are files and a network.
-/

namespace OpcUa

/-- What a command is told about the place where it runs. -/
structure Environment where
  now : Instant
  homeDirectory : String
  hostName : String
  /-- What is drawn for a certificate. -/
  draw : X509.Draw
  /-- Texts that are used nowhere else. -/
  freshUri : String
  freshId : String

namespace Environment

/-- The application's directory. -/
def directory (e : Environment) : String :=
  (if e.homeDirectory.endsWith "/" then e.homeDirectory else e.homeDirectory ++ "/") ++ ".uastack"

def certificatePath (e : Environment) : String :=
  e.directory ++ "/cert.der"

def keyPath (e : Environment) : String :=
  e.directory ++ "/key.der"

/-- The configuration file, unless another one is named. -/
def configPath (e : Environment) (named : Option String) : String :=
  named.getD (e.directory ++ "/config.toml")

/-- The URI of a new application, unless another one is given. -/
def initialUri (e : Environment) (given : Option String) : String :=
  given.getD s!"urn:{e.hostName}:uastack"

end Environment

/-! ### Lines -/

def padded (width : Nat) (text : String) : String :=
  text ++ String.ofList (List.replicate (width - text.length) ' ')

/-- One line about an endpoint, in columns. -/
def EndpointDescription.line (e : EndpointDescription) : String :=
  let policy := match e.securityPolicy with
    | .ok policy => policy.name
    | .error _ => "unsupported"
  let certificate := if e.requiresCertificate then "required" else "no"
  let tokens := ", ".intercalate (e.tokenPolicies.filterMap UserTokenPolicy.policyId)
  "  " ++ padded 40 e.endpointUrl ++ " " ++ padded 16 e.securityMode.name ++ " " ++
    padded 20 policy ++ " level=" ++ padded 3 (toString e.securityLevel.toNat) ++
    " cert=" ++ certificate ++ " tokens=[" ++ tokens ++ "]"

def Listener.lines (l : Listener) : List String :=
  s!"{l.kind.scheme} listening on {l.localAddress.text}" ::
    l.endpoints.map EndpointDescription.line

def Certificate.lines (c : Certificate) (now : Instant) : List String :=
  [ "Subject:    " ++ c.subject,
    "Thumbprint: " ++ c.thumbprint.text,
    "Not before: " ++ c.notBefore.spaced,
    "Not after:  " ++ c.notAfter.spaced] ++
    if c.isValidAt now then [] else ["Status:     outside its validity window"]

namespace Command

variable {m : Type → Type} [Monad m]

/-- Fails with a reason after what was being done. -/
def attempt {α : Type} (context : String) (action : m (Except String α)) : Console m α := do
  match ← action with
  | .ok a => return a
  | .error reason => throw (Console.chain [context] reason [])

/-! ### Initialization -/

variable [FileSystem m]

/-- Writes certificate and key. -/
def saveIdentity (e : Environment) (identity : Identity) : Console m Unit := do
  match ← ((identity.save e.certificatePath e.keyPath).run : m _) with
  | .ok _ => return
  | .error fault =>
    throw (Console.chain ["cannot write identity"] fault.message fault.sources)

/-- The configuration of an application with the identity that is written beside it. -/
def initialConfig (e : Environment) (applicationUri : String) : ApplicationConfig where
  applicationUri := some applicationUri
  identity := some ⟨e.certificatePath, e.keyPath⟩

/-- Makes the application's directory. An identity that is there is in the way, except by force. -/
def makeRoom (e : Environment) (force : Bool) : Console m Unit := do
  attempt s!"cannot create {e.directory}" (FileSystem.makeDirectory e.directory)
  if (← (FileSystem.isPresent e.certificatePath : m _)) && !force then
    throw s!"{e.certificatePath} already exists (use --force to replace it)"

/-- Writes the configuration if there is none. -/
def writeConfig (path : String) (c : ApplicationConfig) : Console m Unit := do
  if ← (FileSystem.isPresent path : m _) then
    Console.print s!"Config:     {path} (kept)"
  else
    attempt s!"cannot write {path}" (FileSystem.write path c.toText.toUTF8.toList)
    Console.print s!"Config:     {path}"

/-- Makes an identity, and a configuration for it if there is none. -/
def runInit (e : Environment) (config : Option String) (force : Bool)
    (applicationUri : Option String) : Console m Unit := do
  makeRoom e force
  let uri := e.initialUri applicationUri
  let identity ← Console.ofExcept (Identity.mint "uastack" e.hostName uri e.draw)
  saveIdentity e identity
  Console.print s!"Identity:   {e.certificatePath}"
  Console.print s!"Thumbprint: {identity.thumbprint.text}"
  writeConfig (e.configPath config) (initialConfig e uri)

/-! ### Certificates -/

def runThumbprint (e : Environment) (path : String) : Console m Unit := do
  let bytes ← (FileSystem.read path : m _)
  match bytes.mapError .io >>= Certificate.decode with
  | .ok certificate => (certificate.lines e.now).forM Console.print
  | .error fault =>
    throw (Console.chain [s!"cannot read certificate {path}"] fault.message fault.sources)

/-! ### Servers -/

variable [Network m]

/-- Reads the files of a list once. -/
def collect (paths : List String) : m FileReader := do
  let files ← paths.mapM fun path => do return (path, ← FileSystem.read path)
  return .ofList files

/-- The application of a configuration file. -/
def loadApplication (e : Environment) (config : Option String) : Console m Application := do
  let path := e.configPath config
  let configFile ← (collect [path] : m _)
  let c := ApplicationConfig.load configFile path
  let read ← (collect c.files : m _)
  match Application.ofConfig c ⟨e.now, e.hostName, e.freshUri, read⟩ with
  | .ok application => return application
  | .error fault =>
    throw (Console.chain ["invalid configuration"] fault.message fault.sources)

/-- Binds a server. -/
def listen (c : ServerContext) : Console m Listener := do
  let bound ← match SocketAddress.ofText? c.listenAddress with
    | some address => (Network.bind address : m _)
    | none => pure (.error "")
  match Listener.ofContext (fun _ => bound) c with
  | .ok listener => return listener
  | .error source =>
    let fault := AppFault.serverConstruction c.kind source
    throw (Console.chain [] fault.message fault.sources)

/-- Starts the servers of the configuration, that of HTTPS only if it is asked for. -/
def runServe (e : Environment) (config : Option String) (https : Bool) :
    Console m (List Listener) := do
  let application ← loadApplication e config
  let kinds : List TransportKind := if https then [.opcTcp, .https] else [.opcTcp]
  kinds.mapM fun kind => do
    let listener ← listen (application.serverContext kind)
    listener.lines.forM Console.print
    return listener

/-! ### Discovery -/

def responseLines (json : Bool) (response : GetEndpointsResponse) : List String :=
  if json then [response.toJson.renderIndented]
  else if response.endpoints.isEmpty then ["No endpoints."]
  else response.endpoints.map EndpointDescription.line

/-- Asks the server at an address for its endpoints. -/
def askEndpoints (e : Environment) (address : SocketAddress) (request : GetEndpointsRequest) :
    m (Except WireFault GetEndpointsResponse) := do
  match Discovery.question e.freshId request with
  | .error fault => return .error fault
  | .ok sent =>
    match ← Network.exchange address sent with
    | .error reason => return .error (.io reason)
    | .ok received => return Discovery.outcome e.freshId e.now received

def runDiscover (e : Environment) (address : String) (url : Option String)
    (profiles : List String) (json : Bool) : Console m Unit := do
  match ← attempt s!"cannot resolve {address}" (Network.resolve address) with
  | none => throw s!"no address for {address}"
  | some resolved =>
    let request : GetEndpointsRequest := {
      requestHeader := { timestamp := e.now }
      endpointUrl := url.getD s!"opc.tcp://{resolved.text}"
      profileUris := profiles }
    match ← (askEndpoints e resolved request : m _) with
    | .ok response => (responseLines json response).forM Console.print
    | .error fault => throw (Console.chain [] fault.message fault.sources)

/-- Runs a command; gives the servers that it has started. -/
def run (e : Environment) (i : Invocation) : Console m (List Listener) := do
  match i.command with
  | .init force uri =>
    runInit e i.config force uri
    return []
  | .serve https => runServe e i.config https
  | .discover address url profiles json =>
    runDiscover e address url profiles json
    return []
  | .thumbprint path =>
    runThumbprint e path
    return []

end Command

end OpcUa
