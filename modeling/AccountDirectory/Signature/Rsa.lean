import AccountDirectory.Signature.Sha256

/-!
# RSA signatures with SHA-256

A signature is verified by raising it to the public exponent and comparing the result, octet for
octet, with the one encoding that the digest has: `00 01 FF … FF 00`, the name of the hash, the
digest. Nothing inside the encoding is parsed, so no other encoding passes.

A key is usable when its modulus is odd and has at most 4096 bits, and its exponent is odd, at least
2, of at most 33 bits and below the modulus.
-/

namespace AccountDirectory.Signature.Rsa

/-- A public key. -/
structure PublicKey where
  modulus : Nat
  exponent : Nat
  deriving DecidableEq

/-- The natural that octets spell, the first one highest. -/
def natural (octets : List UInt8) : Nat := octets.foldl (fun n b ↦ n * 256 + b.toNat) 0

/-- A natural as this many octets, the first one highest. -/
def octets (count n : Nat) : List UInt8 :=
  (List.range count).map fun i ↦ UInt8.ofNat (n >>> (8 * (count - 1 - i)))

/-- The number of octets that a natural fills. -/
def size (n : Nat) : Nat := if n = 0 then 0 else n.log2 / 8 + 1

namespace PublicKey

/-- The key may be used. -/
def isUsable (key : PublicKey) : Bool :=
  key.modulus % 2 == 1 && key.modulus.log2 < 4096 && key.exponent % 2 == 1 && 2 ≤ key.exponent &&
    key.exponent < 0x200000000 && key.exponent < key.modulus

end PublicKey

/-- The power `base ^ exponent` modulo a modulus, by squaring. -/
def powMod (base exponent modulus : Nat) : Nat :=
  if exponent = 0 then 1 % modulus
  else
    let half := powMod (base * base % modulus) (exponent / 2) modulus
    if exponent % 2 = 1 then base * half % modulus else half
termination_by exponent
decreasing_by omega

/-- The name of the hash, as it stands before a digest. -/
def hashName : List UInt8 :=
  [0x30, 0x31, 0x30, 0x0d, 0x06, 0x09, 0x60, 0x86, 0x48, 0x01, 0x65, 0x03, 0x04, 0x02, 0x01, 0x05,
    0x00, 0x04, 0x20]

/-- The encoding of a message's digest in `count` octets, if it fits with at least eight octets of
padding. -/
def encoded? (count : Nat) (message : List UInt8) : Option (List UInt8) :=
  let info := hashName ++ Sha256.digest message
  if info.length + 11 ≤ count then
    some (0x00 :: 0x01 :: List.replicate (count - info.length - 3) 0xFF ++ 0x00 :: info)
  else none

/-- The signature of a message is valid under a key. -/
def verifies (key : PublicKey) (message signature : List UInt8) : Bool :=
  let count := size key.modulus
  let s := natural signature
  key.isUsable && signature.length == count && s < key.modulus &&
    encoded? count message == some (octets count (powMod s key.exponent key.modulus))

end AccountDirectory.Signature.Rsa
