import AccountDirectory.Assembly
import AccountDirectory.CommandLine.Arguments
import AccountDirectory.Json.Printer
import AccountDirectory.Settings.Load

/-!
# Executing commands

A command line loads the settings, assembles an instance, and runs its command as calls of a client
that nothing cancels. The user that results is written as indented JSON; the first failure is the
failure of the whole.
-/

namespace AccountDirectory.CommandLine

/-- Why a command has failed. -/
inductive Failure
  | settings (e : SettingsError)
  | build (e : BuildError)
  /-- The metadata given is no JSON object. -/
  | metadata
  | call (e : ClientError)

/-- The wording of a failure. -/
def Failure.message : Failure → String
  | .settings _ => "failed to load configuration"
  | .build e => e.message
  | .metadata => "metadata must be a JSON object"
  | .call e => e.message

/-- The instance for the content of a settings file and the variables of the environment, with what
is logged on the way. -/
def assemble (file : Option String) (environment : List (String × String)) :
    List LogEntry × Except Failure Instance :=
  match Settings.load file environment with
  | .error e => ([], .error (.settings e))
  | .ok settings =>
    let (entries, built) := Instance.build settings
    (entries, built.mapError .build)

/-- A call of the client. -/
def clientCall (i : Instance) (c : Service.Call) : Procedure (Except Failure User) := do
  let outcome ← Client.program c.name (i.program c)
  pure (outcome.mapError .call)

/-- The user to search for. -/
def searched (term criteria : String) (token : Option String) : User :=
  if criteria = Criteria.email.name then { primaryEmail := term, token }
  else { username := term, token }

/-- The program of a command. -/
def Command.program (i : Instance) : Command → Procedure (Except Failure User)
  | .lookup input => clientCall i (.lookup input)
  | .get userId token => clientCall i (.getUser { userId, token })
  | .search term criteria token =>
    clientCall i (.searchUser (searched term criteria token) criteria)
  | .resolve input => do
    match ← clientCall i (.lookup input) with
    | .error e => pure (.error e)
    | .ok user =>
      if user.userId = "" then clientCall i (.searchUser user Criteria.username.name)
      else clientCall i (.getUser user)
  | .update token metadata =>
    match (Json.Document.ofText? metadata).bind (Metadata.ofDocument? Json.nestingLimit) with
    | none => pure (.error .metadata)
    | some metadata => clientCall i (.updateUser { token := some token, metadata := some metadata })

/-- The output for a user. -/
def report (u : User) : String := u.toJson.pretty ++ "\n"

end AccountDirectory.CommandLine
