import CredentialStore.CommandLine.Command
import CredentialStore.Credential.Json
import CredentialStore.Json.Writer
import CredentialStore.Site

/-!
# Running commands

A command opens the site, does its work, and prints what came of it as JSON; secrets are printed
only on demand. A failure is described on the error stream.
-/

namespace CredentialStore.CommandLine

/-- What a run of the program leaves: its exit code and what it printed. -/
structure Report where
  code : Nat
  output : String := ""
  errors : String := ""
  deriving DecidableEq, Repr

/-- The name and the version of the program. -/
def versionText : String :=
  "publisher-credentials 0.1.0"

/-- The configuration of a call. -/
def Invocation.config (i : Invocation) : Config :=
  { backend := i.backend.getD .auto, filePath := i.file }

/-- A credential as it is printed: `shown`. -/
def printed (showSecrets : Bool) (c : Credential) : Json :=
  (if showSecrets then c else c.redacted).toJson

/-- A result and the notices on the error stream that come before it. -/
abbrev Printed := Json × List String

/-- Runs a command on a service. -/
def runOn (i : Invocation) (service : Service Site) (fresh : String) : Op Site Json := do
  let out := printed i.showSecrets
  match i.command with
  | .list => return .array ((← service.list).map out)
  | .get guid => return out (← service.get guid)
  | .add details force =>
    return out (← if force then service.forceSet fresh details else service.set fresh details)
  | .delete guid =>
    service.delete guid
    return .object [("deleted", .string guid)]
  | .default .display =>
    match ← service.defaultServer with
    | some c => return out c
    | none => return .null
  | .default (.prefer guid) =>
    service.setDefaultServer guid
    return .object [("defaultServer", .string guid)]
  | .default .clear =>
    service.clearDefaultServer
    return .object [("defaultServer", .null)]
  | .backend =>
    return .object
      [("backend", .string service.name), ("configured", .string i.config.backend.text)]
  | .reset => return .null

/-- Runs the command that removes everything; that there is no copy of it is only a notice. -/
def runReset : Op Site Printed := do
  let outcome ← Site.reset
  let notices := (outcome.backupError.map fun e => "Warning: " ++ e.message).toList
  return (.object [("backupFile", .string outcome.display)], notices)

/-- Opens the site and tells what the migration has to say. -/
def openSite (fresh : String) : Op Site (Service Site × List String) := do
  let opened ← Site.openStore fun _ => fresh
  let notices := match opened.migration with
    | .failed reason => ["Warning: legacy migration failed: " ++ reason]
    | _ => []
  return ((← Op.state).service opened.place, notices)

/-- The text of notices, one a line. -/
def noticeText (notices : List String) : String :=
  String.join (notices.map (· ++ "\n"))

/-- The report of a result: `print_json`. -/
def succeed (p : Printed) : Report :=
  ⟨0, p.1.pretty ++ "\n", noticeText p.2⟩

/-- The report of a failure. -/
def failure (notices : List String) (e : CredentialError) : Report :=
  ⟨1, "", noticeText notices ++ "Error: " ++ e.describe ++ "\n"⟩

/-- Runs a call of the program on a site. -/
def runInvocation (i : Invocation) (fresh : String) : Op Site Report := do
  match i.command with
  | .reset =>
    match ← Op.attempt runReset with
    | .ok p => return succeed p
    | .error e => return failure [] e
  | _ =>
    match ← Op.attempt (openSite fresh) with
    | .error e => return failure [] e
    | .ok (service, notices) =>
      match ← Op.attempt (runOn i service fresh) with
      | .ok j => return succeed (j, notices)
      | .error e => return failure notices e

/-- Runs the program. The site brings everything but the configuration, which the call gives. -/
def run (lookup : String → Option String) (args : List String) (fresh : String) (site : Site) :
    Report × Site :=
  match readRequest lookup args with
  | .version => (⟨0, versionText ++ "\n", ""⟩, site)
  | .misused => (⟨2, "", ""⟩, site)
  | .run i =>
    let outcome := runInvocation i fresh { site with config := i.config, migration := .unchecked }
    match outcome.answer with
    | .ok report => (report, outcome.state)
    | .error e => (failure [] e, outcome.state)

end CredentialStore.CommandLine
