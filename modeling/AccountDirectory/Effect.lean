import AccountDirectory.Http.Exchange
import AccountDirectory.Program
import AccountDirectory.Token.KeySet

/-!
# What the adapters do to the world

The adapters that reach a tenant over HTTP read clocks, exchange requests for responses, and share
two caches: a service token behind a lock, and a key set. Each of these is one operation here, so a
run of several calls is an interleaving of such operations.

The steady clock counts milliseconds from any starting point; the calendar counts seconds since
1970.
-/

namespace AccountDirectory

/-- A service token and the time from which it is replaced. -/
structure CachedToken where
  token : String
  refreshAt : Nat
  deriving DecidableEq

/-- A key set and the time at which it was stored. -/
structure CachedKeys where
  keys : Token.KeySet
  fetchedAt : Nat
  deriving DecidableEq

/-- An operation of the adapters. -/
inductive Effect
  /-- Reads the steady clock. -/
  | steadyClock
  /-- Reads the calendar. -/
  | calendar
  /-- Sends a request and waits for the response. -/
  | exchange (request : Http.Request)
  /-- Waits for the lock on the service token. -/
  | lockToken
  /-- Releases that lock. -/
  | unlockToken
  /-- Reads the cached service token. -/
  | cachedToken
  /-- Replaces the cached service token. -/
  | storeToken (entry : CachedToken)
  /-- Reads the cached key set. -/
  | cachedKeys
  /-- Replaces the cached key set. -/
  | storeKeys (entry : CachedKeys)

namespace Effect

/-- What an operation answers. -/
abbrev Answer : Effect → Type
  | steadyClock => Nat
  | calendar => Nat
  | exchange _ => Except Http.TransportFailure Http.Response
  | lockToken => Unit
  | unlockToken => Unit
  | cachedToken => Option CachedToken
  | storeToken _ => Unit
  | cachedKeys => Option CachedKeys
  | storeKeys _ => Unit

end Effect

/-- A program over the adapters' operations. -/
abbrev Procedure (α : Type) : Type := Program Effect Effect.Answer α

namespace Procedure

/-- Asks for one operation. -/
def call (e : Effect) : Procedure e.Answer := Program.call e

/-- Writes a log entry. -/
def log (entry : LogEntry) : Procedure Unit := Program.log entry

/-- Builds a request and exchanges it for a response. -/
def exchange (method : Http.Method) (address : String) (bearer : Option String)
    (body : Option Json.Value) : Procedure (Except Http.TransportFailure Http.Response) :=
  match Http.Request.build method address bearer body with
  | .error e => .done (.error e)
  | .ok request => call (.exchange request)

end Procedure

end AccountDirectory
