import AccountDirectory.Http.Status
import AccountDirectory.Http.Url.Parser
import AccountDirectory.Json.Printer
import AccountDirectory.Text.Base64Url

/-!
# Requests, responses and failed transport

A `Request` can only be built for an address that can be connected to and for a bearer token that a
header can carry, so `Request.build` is where every other request fails, before anything is sent.

The user that an address names is not sent with the address but in a header of its own.
-/

namespace AccountDirectory.Http

/-- What a request does. -/
inductive Method
  | get
  | post
  | patch
  deriving DecidableEq

/-- The name of a method. -/
def Method.name : Method → String
  | get => "GET"
  | post => "POST"
  | patch => "PATCH"

/-- A request to be sent. -/
structure Request where
  method : Method
  /-- The address; its scheme is `http` or `https`, and it has a host. -/
  url : Url
  /-- The name and the password sent as `Basic`. -/
  user : Option (String × String)
  /-- The token sent as `Bearer`. -/
  bearer : Option String
  /-- The JSON that is sent. -/
  body : Option Json.Value

/-- The octets of a text in base 64, with padding. -/
def base64 (s : String) : String :=
  let letters := (Text.Base64Url.encode (Text.Utf8.encode s.toList)).map fun c ↦
    if c = '-' then '+' else if c = '_' then '/' else c
  String.ofList (letters ++ List.replicate ((4 - letters.length % 4) % 4) '=')

/-- The values of the authorization headers. -/
def Request.authorizations (r : Request) : List String :=
  (r.user.map fun (name, password) ↦ "Basic " ++ base64 (name ++ ":" ++ password)).toList ++
    (r.bearer.map ("Bearer " ++ ·)).toList

/-- A complete answer. -/
structure Response where
  status : Nat
  body : List UInt8

/-- The body as text, ill-formed octets replaced. -/
def Response.text (r : Response) : String := String.ofList (Text.Utf8.decodeLossy r.body)

/-- Why a request got no answer. -/
inductive TransportFailure
  /-- The address or a header is malformed. -/
  | malformed
  /-- The address is none that requests can be sent to. -/
  | unreachable (address : String)
  /-- No answer came. -/
  | noAnswer (url : String)
  deriving DecidableEq

/-- The wording of a failed transport. -/
def TransportFailure.message : TransportFailure → String
  | .malformed => "builder error"
  | .unreachable address => "builder error for url (" ++ address ++ ")"
  | .noAnswer url => "error sending request for url (" ++ url ++ ")"

/-- The characters that a header can carry: no controls except the tab. -/
def isHeaderChar (c : Char) : Bool := c == '\t' || (0x20 ≤ c.toNat && c.toNat ≠ 0x7F)

/-! ### Building requests -/

/-- The name and the password of a user, unescaped, where the name spells a text; a password that
spells none does not count. -/
def UserInfo.credentials? (u : UserInfo) : Option (String × String) := do
  let plain := fun (s : String) ↦
    (Text.Utf8.decode? (Text.Percent.decode s.toList)).map String.ofList
  let name ← plain u.name
  let password := u.password.bind plain
  if name.isEmpty && password.isNone then none else some (name, password.getD "")

/-- The longest address that requests can be sent to. -/
def Url.lengthLimit : Nat := 65534

/-- Requests can be sent to the address: it is one of the web, not too long, and the name of its host
has only characters that a request can carry. -/
def Url.isReachable (u : Url) : Bool :=
  (u.scheme == .http || u.scheme == .https) && u.text.length ≤ Url.lengthLimit &&
    !u.host.toList.any fun c ↦ "\"`\x7b\x7d".toList.contains c

namespace Request

/-- The request to an address, if it can be sent at all. -/
def build (method : Method) (address : String) (bearer : Option String)
    (body : Option Json.Value) : Except TransportFailure Request :=
  match Url.parse? address with
  | none => .error .malformed
  | some url =>
    let user := (url.authority.bind (·.user)).bind UserInfo.credentials?
    let url := if user.isSome then url.withoutUser else url
    if !((bearer.getD "").toList.all isHeaderChar) then .error .malformed
    else if !url.isReachable then .error (.unreachable url.text)
    else .ok ⟨method, url, user, bearer, body⟩

end Request

/-- The wording of a status: its number and its reason phrase. -/
def statusText (status : Nat) : String :=
  toString status ++ " " ++ (reasonPhrase? status).getD "<unknown status code>"

end AccountDirectory.Http
