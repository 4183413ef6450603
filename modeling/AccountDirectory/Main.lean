import AccountDirectory.CommandLine.Execution
import AccountDirectory.CommandLine.LogLine
import AccountDirectory.Http.Wire
import Std.Async.DNS
import Std.Async.TCP
import Std.Async.Timer

/-!
# The program `user-directory`

Reads the arguments, the environment and the settings file, performs the command, and writes what it
returned. Exchanges go over plain connections; an address that needs a secured one gets no answer.
-/

namespace AccountDirectory.Main

open CommandLine
open Std.Async (Async)

/-! ### The environment -/

/-- The variable that an entry of the environment sets. -/
def variableOf (entry : List UInt8) : Option (String × String) :=
  (Text.Utf8.decode? entry).map fun cs ↦
    let name := cs.takeWhile (· ≠ '=')
    (String.ofList name, String.ofList (cs.drop (name.length + 1)))

/-- The entries of an environment, each of which a zero octet ends. -/
def entriesOf : List UInt8 → List (List UInt8)
  | [] => [[]]
  | b :: rest =>
    match b, entriesOf rest with
    | 0, entries => [] :: entries
    | b, entry :: entries => (b :: entry) :: entries
    | b, [] => [[b]]

/-- The variables of the environment, in the order of their names. -/
def readEnvironment : IO (List (String × String)) := do
  match ← (IO.FS.readBinFile "/proc/self/environ").toBaseIO with
  | .error _ => return []
  | .ok octets =>
    let found := (entriesOf octets.toList).filter (!·.isEmpty) |>.filterMap variableOf
    return found.mergeSort fun a b ↦ !(b.1 < a.1)

/-- The content of the settings file; a file that is not there has none. -/
def content (path : Option String) : IO (Except Failure (Option String)) := do
  match path with
  | none => return .ok none
  | some path =>
    match ← (IO.FS.readFile path).toBaseIO with
    | .ok s => return .ok (some s)
    | .error (.noFileOrDirectory ..) => return .ok none
    | .error _ => return .error (.settings ⟨.unreadable, []⟩)

/-! ### Exchanges -/

/-- Everything that arrives up to the end of the connection. -/
partial def receive (socket : Std.Async.TCP.Socket.Client) (octets : ByteArray) :
    Async ByteArray := do
  match ← socket.recv? 65536 with
  | none => return octets
  | some more => receive socket (octets ++ more)

/-- Ends in a failure after this time. -/
def timeout {α : Type} (seconds : Nat) : Async α := do
  Std.Async.sleep (Std.Time.Millisecond.Offset.ofNat (1000 * min seconds 1000000))
  throw (IO.userError "timeout")

/-- The address of a host under a number. -/
def addressOf (host : String) (number : Nat) : Async Std.Net.SocketAddress := do
  let found ← Std.Async.DNS.getAddrInfo host ""
  match found.toList with
  | .v4 addr :: _ => return .v4 ⟨addr, number.toUInt16⟩
  | .v6 addr :: _ => return .v6 ⟨addr, number.toUInt16⟩
  | [] => throw (IO.userError "unknown host")

/-- The octets that come back for a request. -/
def converse (settings : TransportSettings) (r : Http.Request) : Async ByteArray := do
  let socket ← Std.Async.TCP.Socket.Client.mk
  let address ← addressOf r.url.host r.url.effectivePort
  Async.race (socket.connect address) (timeout settings.connectTimeout)
  socket.send (ByteArray.mk r.wire.toArray)
  receive socket .empty

/-- Exchanges a request for a response. -/
def exchange (settings : TransportSettings) (r : Http.Request) :
    IO (Except Http.TransportFailure Http.Response) := do
  let failed := Except.error (Http.TransportFailure.noAnswer r.url.text)
  if r.url.scheme = .https then return failed
  let conversation : Async ByteArray :=
    Async.race (converse settings r) (timeout settings.timeout)
  match ← conversation.block.toBaseIO with
  | .error _ => return failed
  | .ok octets =>
    match Http.Response.ofWire? octets.toList with
    | none => return failed
    | some response => return .ok response

/-! ### Effects -/

/-- What the operations share. -/
structure World where
  settings : TransportSettings
  token : IO.Ref (Option CachedToken)
  keys : IO.Ref (Option CachedKeys)

/-- Does an operation; with one caller there is nothing to lock. -/
def perform (w : World) : (e : Effect) → IO e.Answer
  | .steadyClock => IO.monoMsNow
  | .calendar => do
    return (← Std.Time.Timestamp.now).toSecondsSinceUnixEpoch.val.toNat
  | .exchange r => exchange w.settings r
  | .lockToken => pure ()
  | .unlockToken => pure ()
  | .cachedToken => w.token.get
  | .storeToken entry => w.token.set (some entry)
  | .cachedKeys => w.keys.get
  | .storeKeys entry => w.keys.set (some entry)

/-- Shows a log entry. -/
def note (format : LogFormat) (entry : LogEntry) : IO Unit :=
  match format.line? entry with
  | some line => IO.eprintln line
  | none => pure ()

/-- Executes a complete command line. -/
def execute (invocation : Invocation) (environment : List (String × String)) :
    IO (Except Failure User) := do
  match ← content invocation.config with
  | .error e => return .error e
  | .ok file =>
    let (entries, assembled) := assemble file environment
    entries.forM (note invocation.logFormat)
    match assembled with
    | .error e => return .error e
    | .ok i =>
      let w : World := ⟨i.transport, ← IO.mkRef none, ← IO.mkRef none⟩
      (invocation.command.program i).interpret (note invocation.logFormat) (perform w)

/-- Performs a command line and returns the exit code. -/
def run (arguments : List String) : IO UInt32 := do
  let environment ← readEnvironment
  match Invocation.ofArguments arguments (fun name ↦ environment.lookup name) with
  | .error .help =>
    IO.print helpText
    return 0
  | .error .version =>
    IO.print versionText
    return 0
  | .error .misuse =>
    IO.eprint helpText
    return 2
  | .ok invocation =>
    match ← execute invocation environment with
    | .ok user =>
      IO.print (report user)
      return 0
    | .error e =>
      IO.eprintln ("Error: " ++ e.message)
      return 1

end AccountDirectory.Main

/-- The program. -/
def main (arguments : List String) : IO UInt32 := AccountDirectory.Main.run arguments
