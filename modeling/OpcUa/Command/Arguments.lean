/-!
# Command lines

A command line names a command, with options of its own and options for all commands, which may
stand before the command as well. A value stands after its option or after an equals sign. Two
hyphens end the options.
-/

namespace OpcUa

inductive Command where
  | init (force : Bool) (applicationUri : Option String)
  | serve (https : Bool)
  | discover (address : String) (url : Option String) (profiles : List String) (json : Bool)
  | thumbprint (path : String)
  deriving DecidableEq, Repr

structure Invocation where
  /-- The configuration file, if it is not the one in the home directory. -/
  config : Option String
  jsonLogs : Bool
  command : Command
  deriving DecidableEq, Repr

/-- What help can be had about. -/
inductive Topic where
  | program
  | init
  | serve
  | discover
  | thumbprint
  | help
  deriving DecidableEq, Repr

namespace Topic

def ofName? (name : String) : Option Topic :=
  if name = "init" then some .init
  else if name = "serve" then some .serve
  else if name = "discover" then some .discover
  else if name = "thumbprint" then some .thumbprint
  else if name = "help" then some .help
  else none

end Topic

/-- Why a command line gives no invocation. -/
inductive UsageEnd where
  | help (topic : Topic)
  | version
  | wrong (reason : String)
  deriving DecidableEq, Repr

namespace Arguments

structure OptionRule where
  name : String
  takesValue : Bool := false
  repeats : Bool := false
  /-- The value must not be empty. -/
  isPath : Bool := false

/-- The options of all commands. -/
def sharedRules : List OptionRule := [
  { name := "config", takesValue := true, isPath := true },
  { name := "json-logs" }]

/-- The options and the number of words of a topic. -/
def rules : Topic → List OptionRule × Nat
  | .program => (sharedRules, 0)
  | .init => (
      [{ name := "force" }, { name := "application-uri", takesValue := true }] ++ sharedRules, 0)
  | .serve => ([{ name := "https" }] ++ sharedRules, 0)
  | .discover => ([
      { name := "url", takesValue := true },
      { name := "profile", takesValue := true, repeats := true },
      { name := "json" }] ++ sharedRules, 1)
  | .thumbprint => (sharedRules, 1)
  | .help => ([], 0)

/-- What has been given: options, each with its value or an empty text, and words; the latest
first. -/
structure Given where
  options : List (String × String) := []
  words : List String := []

namespace Given

def has (g : Given) (name : String) : Bool :=
  g.options.any (·.1 == name)

/-- The values of an option in their order. -/
def values (g : Given) (name : String) : List String :=
  (g.options.reverse.filter (·.1 == name)).map (·.2)

def value? (g : Given) (name : String) : Option String :=
  (g.values name).getLast?

end Given

def isOption (argument : String) : Bool :=
  argument.startsWith "-" && argument != "-"

/-- The name and the value of a long option that are joined by an equals sign. -/
def splitOption (argument : String) : String × Option String :=
  let text := argument.toList.drop 2
  match text.dropWhile (· != '=') with
  | [] => (String.ofList text, none)
  | _ :: value => (String.ofList (text.takeWhile (· != '=')), some (String.ofList value))

/-- Adds an option that has been found. -/
def addOption (rule : OptionRule) (value : String) (g : Given) : Except UsageEnd Given :=
  if g.has rule.name && !rule.repeats then
    .error (.wrong s!"the argument '--{rule.name}' cannot be used multiple times")
  else if rule.isPath && value.isEmpty then
    .error (.wrong s!"a value is required for '--{rule.name}' but none was supplied")
  else .ok { g with options := (rule.name, value) :: g.options }

def unexpected (argument : String) : UsageEnd :=
  .wrong s!"unexpected argument '{argument}' found"

/-- One argument that is a short option: help, or the version of the program. -/
def shortOption (topic : Topic) (argument : String) : UsageEnd :=
  match argument.toList with
  | _ :: 'h' :: _ => .help topic
  | _ :: 'V' :: _ => if topic = .program then .version else unexpected argument
  | _ => unexpected argument

/-- Reads the arguments of a topic. The first word of the program ends its own arguments; the words
of a command are counted. Gives what is left. -/
def scan (topic : Topic) (g : Given) : List String → Except UsageEnd (Given × List String)
  | [] => .ok (g, [])
  | argument :: rest =>
    if argument = "--" then
      if (rules topic).2 < g.words.length + rest.length then
        .error (unexpected (rest.headD argument))
      else .ok ({ g with words := rest.reverse ++ g.words }, [])
    else if argument.startsWith "--" then
      let (name, joined) := splitOption argument
      if name = "help" then .error (.help topic)
      else if name = "version" ∧ topic = .program then .error .version
      else
        match (rules topic).1.find? (·.name == name), joined, rest with
        | none, _, _ => .error (unexpected argument)
        | some rule, some value, rest =>
          if rule.takesValue then do scan topic (← addOption rule value g) rest
          else .error (.wrong s!"unexpected value for '--{name}'")
        | some rule, none, rest =>
          if !rule.takesValue then do scan topic (← addOption rule "" g) rest
          else
            match rest with
            | value :: rest =>
              if isOption value then
                .error (.wrong s!"a value is required for '--{name}' but none was supplied")
              else do scan topic (← addOption rule value g) rest
            | [] => .error (.wrong s!"a value is required for '--{name}' but none was supplied")
    else if isOption argument then .error (shortOption topic argument)
    else if topic = .program then .ok (g, argument :: rest)
    else if g.words.length < (rules topic).2 then
      scan topic { g with words := argument :: g.words } rest
    else .error (unexpected argument)

/-- The command of a topic with what has been given. -/
def command? (topic : Topic) (g : Given) : Option Command :=
  match topic, g.words.reverse with
  | .init, [] => some (.init (g.has "force") (g.value? "application-uri"))
  | .serve, [] => some (.serve (g.has "https"))
  | .discover, [address] =>
    some (.discover address (g.value? "url") (g.values "profile") (g.has "json"))
  | .thumbprint, [path] => if path.isEmpty then none else some (.thumbprint path)
  | _, _ => none

/-- Help on the topics named. -/
def helpOn : List String → UsageEnd
  | [] => .help .program
  | [name] =>
    match Topic.ofName? name with
    | some topic => .help topic
    | none => .wrong s!"unrecognized subcommand '{name}'"
  | _ :: name :: _ => .wrong s!"unrecognized subcommand '{name}'"

def parse (arguments : List String) : Except UsageEnd Invocation := do
  match ← scan .program {} arguments with
  | (_, []) => .error (.wrong "a subcommand is required")
  | (shared, name :: rest) =>
    match Topic.ofName? name with
    | none => .error (.wrong s!"unrecognized subcommand '{name}'")
    | some .help => .error (helpOn rest)
    | some topic =>
      let (own, _) ← scan topic {} rest
      match command? topic own with
      | none => .error (.wrong "required arguments were not provided")
      | some command =>
        return {
          config := own.value? "config" <|> shared.value? "config"
          jsonLogs := own.has "json-logs" || shared.has "json-logs"
          command }

end Arguments

end OpcUa
