import CredentialStore.CommandLine.Options
import CredentialStore.Config
import CredentialStore.Credential.Basic

/-!
# Commands

What the program is asked to do (`Cli`, `Command`). The options for the backend, the file and
secrets can stand behind the name of any command on the way; the one furthest behind counts. Where
an option is not given at some command, the variable for it is read there, so that a variable that
cannot be read is an error even if the option is given elsewhere.
-/

namespace CredentialStore.CommandLine

/-- What to do with the preferred credential. -/
inductive DefaultAction where
  | display
  | prefer (guid : String)
  | clear
  deriving DecidableEq, Repr

/-- What the program is asked to do. -/
inductive Command where
  | list
  | get (guid : String)
  | add (details : Details) (force : Bool)
  | delete (guid : String)
  | reset
  | default (action : DefaultAction)
  | backend
  deriving DecidableEq, Repr

/-- A call of the program. -/
structure Invocation where
  backend : Option BackendKind := none
  file : Option String := none
  showSecrets : Bool := false
  command : Command
  deriving DecidableEq, Repr

/-- What a command line asks for; a command line that is not understood asks for nothing. -/
inductive Request where
  | version
  | misused
  | run (invocation : Invocation)
  deriving DecidableEq, Repr

/-- The variable with an API key. -/
def apiKeyVariable : String :=
  "CONNECT_API_KEY"

/-- The options that every command takes (`Cli`), and those of its own. -/
def optionsWith (valued flags commands : List String) : Options :=
  { valued := ["backend", "file"] ++ valued, flags := ["show-secrets"] ++ flags, commands }

/-- The program as a command. -/
def programOptions : Options :=
  optionsWith [] [] ["list", "get", "add", "delete", "reset", "default", "backend"]

/-- The command for a new credential: `AddArgs`. -/
def addOptions : Options :=
  optionsWith
    ["name", "url", "server-type", "api-key", "token", "private-key", "snowflake-connection",
      "account-id", "account-name", "refresh-token", "access-token", "cloud-environment"]
    ["force"] []

/-- The command for the preferred credential. -/
def defaultOptions : Options :=
  optionsWith [] [] ["show", "set", "clear"]

/-- A command without options of its own. -/
def plainOptions : Options :=
  optionsWith [] [] []

/-! ## Options of every command -/

/-- The options of every command, as one command on the way gives them. Which of them the command
line gives itself is kept apart from what variables give. -/
structure Shared where
  backend : Option BackendKind := none
  file : Option String := none
  showSecrets : Bool := false
  variableBackend : Option BackendKind := none
  variableFile : Option String := none
  deriving Repr

/-- Reads the path of a file; it is not empty. -/
def readFile? (path : String) : Option String :=
  if path.isEmpty then none else some path

/-- The value of an option, or else that of its variable; `none` where one cannot be read. -/
def readEither? {α : Type} (read? : String → Option α) (option variableText : Option String) :
    Option (Option α × Option α) :=
  match option, variableText with
  | some text, _ => (read? text).map fun a => (some a, none)
  | none, some text => (read? text).map fun a => (none, some a)
  | none, none => some (none, none)

/-- Takes the options of every command from what one of them is given. -/
def Shared.take? (s : Shared) (lookup : String → Option String) (g : Given) : Option Shared := do
  let (backend, variableBackend) ← readEither? (fun text => (BackendKind.read text).toOption)
    (g.value? "backend") (lookup Config.backendVariable)
  let (file, variableFile) ← readEither? readFile? (g.value? "file") (lookup Config.fileVariable)
  return {
    backend := backend.or s.backend
    file := file.or s.file
    showSecrets := s.showSecrets || g.flags.contains "show-secrets"
    variableBackend := variableBackend.or s.variableBackend
    variableFile := variableFile.or s.variableFile }

/-- The call of a command; what the command line gives comes before variables. -/
def Shared.invoke (s : Shared) (command : Command) : Invocation where
  backend := s.backend.or s.variableBackend
  file := s.file.or s.variableFile
  showSecrets := s.showSecrets
  command := command

/-! ## Reading -/

/-- The details of a new credential: `into_details`. Without a kind of server the URL tells it. -/
def readDetails? (lookup : String → Option String) (g : Given) : Option Details := do
  let name ← g.value? "name"
  let url := (g.value? "url").getD ""
  let serverType ← match g.value? "server-type" with
    | some text => (ServerType.read text).toOption
    | none => some (ServerType.ofUrl url)
  let cloudEnvironment ←
    (CloudEnvironment.read ((g.value? "cloud-environment").getD "production")).toOption
  let text (option : String) : String := (g.value? option).getD ""
  return {
    name, url, serverType, cloudEnvironment
    apiKey := ((g.value? "api-key").or (lookup apiKeyVariable)).getD ""
    token := text "token"
    privateKey := text "private-key"
    snowflakeConnection := text "snowflake-connection"
    accountId := text "account-id"
    accountName := text "account-name"
    refreshToken := text "refresh-token"
    accessToken := text "access-token" }

/-- Reads a command without options of its own and with a number of positional arguments. -/
def readPlain? (lookup : String → Option String) (s : Shared) (count : Nat) (args : List String) :
    Option (Shared × List String) := do
  let g ← plainOptions.read? {} args
  let s ← s.take? lookup g
  if g.positional.length = count then some (s, g.positional) else none

/-- Reads what to do with the preferred credential. -/
def readDefault? (lookup : String → Option String) (s : Shared) (args : List String) :
    Option (Shared × DefaultAction) := do
  let g ← defaultOptions.read? {} args
  let s ← s.take? lookup g
  match g.command with
  | none => return (s, .display)
  | some (name, args) =>
    let (s, positional) ← readPlain? lookup s (if name = "set" then 1 else 0) args
    match name, positional with
    | "show", _ => return (s, .display)
    | "set", [guid] => return (s, .prefer guid)
    | _, _ => return (s, .clear)

/-- Reads a command by its name. -/
def readCommand? (lookup : String → Option String) (s : Shared) (name : String)
    (args : List String) : Option Invocation := do
  match name with
  | "add" =>
    let g ← addOptions.read? {} args
    let s ← s.take? lookup g
    let details ← readDetails? lookup g
    if g.positional.isEmpty then
      return s.invoke (.add details (g.flags.contains "force"))
    else none
  | "default" =>
    let (s, action) ← readDefault? lookup s args
    return s.invoke (.default action)
  | "get" | "delete" =>
    let (s, positional) ← readPlain? lookup s 1 args
    let guid ← positional.head?
    return s.invoke (if name = "get" then .get guid else .delete guid)
  | _ =>
    let (s, _) ← readPlain? lookup s 0 args
    return s.invoke (if name = "list" then .list else if name = "reset" then .reset else .backend)

/-- The arguments before the one that asks for the version, if the program itself is asked. -/
def beforeVersion? (args : List String) : Option (List String) :=
  let before := args.takeWhile fun a => a != "--version" && a != "-V"
  if before.length = args.length then none else some before

/-- Reads a command line. -/
def readRequest (lookup : String → Option String) (args : List String) : Request :=
  let asksVersion : Bool := match beforeVersion? args with
    | none => false
    | some before =>
      match programOptions.read? {} before with
      | some g =>
        g.command.isNone && !before.contains "--" && (Shared.take? {} (fun _ => none) g).isSome
      | none => false
  if asksVersion then .version
  else
    let invocation := do
      let g ← programOptions.read? {} args
      let s ← Shared.take? {} lookup g
      let (name, rest) ← g.command
      readCommand? lookup s name rest
    match invocation with
    | some i => .run i
    | none => .misused

end CredentialStore.CommandLine
