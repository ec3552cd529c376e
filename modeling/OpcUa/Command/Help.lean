import OpcUa.Command.Arguments

/-!
# Help
-/

namespace OpcUa.Topic

def versionText : String :=
  "uastack 0.1.0"

/-- The lines about options of all commands, with descriptions at one column. -/
def sharedLines (column : Nat) : List String :=
  let line (option description : String) : String :=
    option ++ String.ofList (List.replicate (column - option.length) ' ') ++ description
  [ line "      --config <CONFIG>" "Path to config file",
    line "      --json-logs" "Emit logs as JSON",
    line "  -h, --help" "Print help"]

def helpLines : Topic → List String
  | .program => [
      "uastack: OPC UA identities, transport security and endpoint discovery",
      "",
      "Usage: uastack [OPTIONS] <COMMAND>",
      "",
      "Commands:",
      "  init        Create ~/.uastack with a self-signed application identity and a default config",
      "  serve       Start the endpoint servers described by the config and run until Ctrl+C",
      "  discover    Ask a server for its endpoints",
      "  thumbprint  Print the thumbprint and validity of a certificate file",
      "  help        Print this message or the help of the given subcommand(s)",
      "",
      "Options:"] ++ sharedLines 25 ++ [
      "  -V, --version          Print version",
      "",
      "Examples:",
      "  uastack init                              Create ~/.uastack with an identity and config",
      "  uastack serve                             Start the configured endpoint servers",
      "  uastack discover 127.0.0.1:4840           List the endpoints a server offers",
      "  uastack thumbprint ~/.uastack/cert.der    Print a certificate's thumbprint"]
  | .init => [
      "Create ~/.uastack with a self-signed application identity and a default config",
      "",
      "Usage: uastack init [OPTIONS]",
      "",
      "Options:",
      "      --force                              Overwrite an existing identity",
      "      --application-uri <APPLICATION_URI>  " ++
        "Application URI written into the certificate and config"] ++ sharedLines 43
  | .serve => [
      "Start the endpoint servers described by the config and run until Ctrl+C",
      "",
      "Usage: uastack serve [OPTIONS]",
      "",
      "Options:",
      "      --https            Also start the HTTPS transport"] ++ sharedLines 25
  | .discover => [
      "Ask a server for its endpoints",
      "",
      "Usage: uastack discover [OPTIONS] <ADDR>",
      "",
      "Arguments:",
      "  <ADDR>  Server socket address, e.g. 127.0.0.1:4840",
      "",
      "Options:",
      "      --url <URL>           Endpoint URL sent in the request",
      "      --profile <PROFILES>  Only return endpoints with these transport profile URIs",
      "      --json                Print the raw response as JSON"] ++ sharedLines 28
  | .thumbprint => [
      "Print the thumbprint and validity of a certificate file",
      "",
      "Usage: uastack thumbprint [OPTIONS] <PATH>",
      "",
      "Arguments:",
      "  <PATH>  DER or PEM certificate",
      "",
      "Options:"] ++ sharedLines 25
  | .help => [
      "Print this message or the help of the given subcommand(s)",
      "",
      "Usage: uastack help [COMMAND]...",
      "",
      "Arguments:",
      "  [COMMAND]...  Print help for the subcommand(s)"]

end OpcUa.Topic
