import AccountDirectory.Text.Percent

/-!
# Addresses

An absolute address (`Url`) in its normal form: a scheme, perhaps an authority, a path, and perhaps
a query and a fragment. `Url.text` is its written form; `Url.parse?` reads one.

The schemes of the web and of files (`Scheme`) have rules of their own: their hosts are names of
domains, and their paths always have a segment. Addresses under other schemes are kept more as they
are written.
-/

namespace AccountDirectory.Http

/-- The schemes of addresses. -/
inductive Scheme
  | http
  | https
  | ws
  | wss
  | ftp
  | file
  /-- A scheme without rules of its own. -/
  | other (name : String)
  deriving DecidableEq

namespace Scheme

/-- The name of the scheme. -/
def name : Scheme → String
  | http => "http"
  | https => "https"
  | ws => "ws"
  | wss => "wss"
  | ftp => "ftp"
  | file => "file"
  | other name => name

/-- The scheme with this name, which is in small letters. -/
def ofName (name : String) : Scheme :=
  ([http, https, ws, wss, ftp, file].find? (·.name == name)).getD (other name)

/-- The port number when none is written. -/
def defaultPort? : Scheme → Option Nat
  | http | ws => some 80
  | https | wss => some 443
  | ftp => some 21
  | file | other _ => none

/-- The scheme has no rules of its own. -/
def isOther : Scheme → Bool
  | other _ => true
  | _ => false

end Scheme

/-- The user that an authority names, escaped; the name or the password is not empty. -/
structure UserInfo where
  name : String
  /-- A password that is not empty. -/
  password : Option String
  deriving DecidableEq

/-- The authority of an address. -/
structure Authority where
  user : Option UserInfo
  /-- The host; it is empty in an address that has an authority but names no host. -/
  host : String
  /-- The port number, none for the default one. -/
  portNumber : Option Nat
  deriving DecidableEq

/-- The path of an address, escaped. -/
inductive Path
  /-- A path in segments, each with a slash before it. -/
  | segments (parts : List String)
  /-- A path without structure, in an address without an authority. -/
  | written (s : String)
  deriving DecidableEq

/-- An absolute address in its normal form. -/
structure Url where
  scheme : Scheme
  authority : Option Authority
  path : Path
  /-- The part after `?`, escaped. -/
  query : Option String
  /-- The part after `#`, escaped. -/
  fragment : Option String
  deriving DecidableEq

/-! ### Written forms -/

/-- A user before the host. -/
def UserInfo.text (u : UserInfo) : String :=
  u.name ++ (match u.password with | some p => ":" ++ p | none => "") ++ "@"

/-- The host and the port number. -/
def Authority.hostText (a : Authority) : String :=
  a.host ++ (match a.portNumber with | some n => ":" ++ toString n | none => "")

/-- The authority. -/
def Authority.text (a : Authority) : String :=
  (match a.user with | some u => u.text | none => "") ++ a.hostText

/-- The path. -/
def Path.text : Path → String
  | .segments parts => String.join (parts.map ("/" ++ ·))
  | .written s => s

namespace Url

/-- What stands between the scheme and the path. A path without an authority that begins with two
slashes would be taken for one, and so it is marked. -/
def opening (u : Url) : String :=
  match u.authority, u.path with
  | some a, _ => "//" ++ a.text
  | none, .segments ("" :: _ :: _) => "/."
  | none, _ => ""

/-- The path and the query. -/
def target (u : Url) : String :=
  u.path.text ++ (match u.query with | some q => "?" ++ q | none => "")

/-- The written form. -/
def text (u : Url) : String :=
  u.scheme.name ++ ":" ++ u.opening ++ u.target ++
    (match u.fragment with | some f => "#" ++ f | none => "")

/-- The host; the empty text when there is none. -/
def host (u : Url) : String := (u.authority.map (·.host)).getD ""

/-- The port number that is connected to. -/
def effectivePort (u : Url) : Nat :=
  ((u.authority.bind (·.portNumber)).or u.scheme.defaultPort?).getD 0

/-- The address without the user. -/
def withoutUser (u : Url) : Url :=
  { u with authority := u.authority.map fun a ↦ { a with user := none } }

end Url

end AccountDirectory.Http
