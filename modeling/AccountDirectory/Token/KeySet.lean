import AccountDirectory.Json.Record
import AccountDirectory.Signature.Rsa
import AccountDirectory.Text.Base64Url

/-!
# Key sets

An issuer publishes its signing keys as a set. A key has a kind with its own members, and may have
an id. One key that is none of the known kinds makes the whole set unreadable; a key whose members
do not spell octets only fails when it is used.
-/

namespace AccountDirectory.Token

/-- The material of a key, its parts as they are written. -/
inductive KeyMaterial
  | rsa (modulus exponent : String)
  | ellipticCurve (curve x y : String)
  | octets (secret : String)
  | octetPair (curve x : String)
  deriving DecidableEq

/-- A published key. -/
structure SigningKey where
  id : Option String
  material : KeyMaterial
  deriving DecidableEq

/-- A published set of keys, in order. -/
structure KeySet where
  keys : List SigningKey
  deriving DecidableEq

namespace KeyMaterial

/-- Reads the kind of a key. -/
def kind : Json.Reader String := Json.Reader.name Json.Document.isNull

/-- The curves that a key may name. -/
def curves : List String := ["P-256", "P-384", "P-521", "Ed25519"]

/-- Reads the name of a curve. -/
def curve : Json.Reader String := fun budget d ↦ (kind budget d).filter curves.contains

/-- Reads the material of a key; only the members of its kind have a meaning. -/
def ofDocument? : Json.Reader KeyMaterial := fun budget d ↦ do
  let parts := fun names ↦ Json.Record.ofDocument? names budget d
  let kind ← (← parts ["kty"]).required "kty" kind
  if kind = "RSA" then
    let r ← parts ["n", "e"]
    let modulus ← r.required "n" .text
    let exponent ← r.required "e" .text
    some (.rsa modulus exponent)
  else if kind = "EC" then
    let r ← parts ["crv", "x", "y"]
    let curve ← r.required "crv" curve
    let x ← r.required "x" .text
    let y ← r.required "y" .text
    some (.ellipticCurve curve x y)
  else if kind = "oct" then
    let r ← parts ["k"]
    let secret ← r.required "k" .text
    some (.octets secret)
  else if kind = "OKP" then
    let r ← parts ["crv", "x"]
    let curve ← r.required "crv" curve
    let x ← r.required "x" .text
    some (.octetPair curve x)
  else none

/-- The octets that a part spells. -/
def part? (s : String) : Option (List UInt8) := Text.Base64Url.decode? s.toList

/-- What a key can do. -/
inductive Usable
  | rsa (key : Signature.Rsa.PublicKey)
  | otherKind

/-- The key that the material spells, if its parts spell octets. -/
def usable? : KeyMaterial → Option Usable
  | .rsa modulus exponent => do
    let modulus ← part? modulus
    let exponent ← part? exponent
    some (.rsa ⟨Signature.Rsa.natural modulus, Signature.Rsa.natural exponent⟩)
  | .ellipticCurve _ x y => do
    let _ ← part? x
    let _ ← part? y
    some .otherKind
  | .octets secret => (part? secret).map fun _ ↦ .otherKind
  | .octetPair _ x => (part? x).map fun _ ↦ .otherKind

end KeyMaterial

namespace SigningKey

/-- The members that a key of any kind may have. -/
def memberNames : List String :=
  ["use", "key_ops", "alg", "kid", "x5u", "x5c", "x5t", "x5t#S256"]

/-- Reads a key; members without a meaning hold any value. -/
def ofDocument? : Json.Reader SigningKey := fun budget d ↦
  match d, Json.Value.ofDocument? budget d with
  | .object _, some _ => do
    let r ← Json.Record.ofDocument? memberNames budget d
    let material ← KeyMaterial.ofDocument? budget d
    let _ ← r.optional "use" .text
    let _ ← r.optional "key_ops" (.list .text)
    let _ ← r.optional "alg" (.name Json.Document.isNullOrEmpty)
    let id ← r.optional "kid" .text
    let _ ← r.optional "x5u" .text
    let _ ← r.optional "x5c" (.list .text)
    let _ ← r.optional "x5t" .text
    let _ ← r.optional "x5t#S256" .text
    some ⟨id, material⟩
  | _, _ => none

end SigningKey

namespace KeySet

/-- Reads a key set. -/
def ofDocument? : Json.Reader KeySet := fun budget d ↦ do
  let r ← Json.Record.ofDocument? ["keys"] budget d
  let keys ← r.required "keys" (.list SigningKey.ofDocument?)
  some ⟨keys⟩

/-- Reads a key set from the octets of a body. -/
def ofOctets? (body : List UInt8) : Option KeySet :=
  (Json.Document.ofOctets? body).bind (ofDocument? Json.nestingLimit)

/-- The key for a header: the first one with its key id, or the first of all when it names none. -/
def find? (set : KeySet) : Option String → Option SigningKey
  | some id => set.keys.find? fun key ↦ key.id == some id
  | none => set.keys.head?

end KeySet

end AccountDirectory.Token
