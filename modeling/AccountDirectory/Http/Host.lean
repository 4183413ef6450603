import AccountDirectory.Http.Domain
import AccountDirectory.Text.Percent

/-!
# Hosts of web addresses

A host is written as a name, as an IPv4 address or, in brackets, as an IPv6 address. A name is
unescaped and brought into the form in which it is sent. A name whose last label is a number is an
IPv4 address or nothing.

Addresses under schemes without rules of their own know no names of domains: their hosts are kept as
they are written (`written?`), apart from IPv6 addresses.
-/

namespace AccountDirectory.Http.Host

/-- The labels of a name; a dot at the end makes no label. -/
def labels (cs : List Char) : List (List Char) :=
  let parts := Text.pieces '.' cs
  if 1 < parts.length && parts.getLast? == some [] then parts.dropLast else parts

/-! ### IPv4 -/

/-- A number of an IPv4 address: hexadecimal after `0x`, octal after `0`, else decimal. -/
def numberValue? : List Char → Option Nat
  | [] => none
  | '0' :: x :: rest =>
    if x = 'x' ∨ x = 'X' then Digits.value? 16 rest else Digits.value? 8 (x :: rest)
  | cs => Digits.value? 10 cs

/-- The name ends in a number. -/
def endsInNumber (cs : List Char) : Bool :=
  match (labels cs).getLast? with
  | none => false
  | some label => (!label.isEmpty && label.all Char.isDigit) || (numberValue? label).isSome

/-- The address with these numbers: each but the last one is an octet, the last one fills the rest.
-/
def ipv4Of? : Nat → List Nat → Option Nat
  | room, [n] => if n < Nat.pow 256 room then some n else none
  | room + 1, n :: rest =>
    if n < 256 then (ipv4Of? room rest).map (n * Nat.pow 256 room + ·) else none
  | _, _ => none

/-- The written form of an IPv4 address. -/
def ipv4Text (n : Nat) : List Char :=
  let octet (i : Nat) := Nat.toDigits 10 (n >>> (8 * i) % 256)
  octet 3 ++ '.' :: octet 2 ++ '.' :: octet 1 ++ '.' :: octet 0

/-- Reads an IPv4 address. -/
def ipv4? (cs : List Char) : Option (List Char) := do
  let numbers ← (labels cs).mapM numberValue?
  let n ← ipv4Of? 4 numbers
  some (ipv4Text n)

/-! ### IPv6 -/

/-- A piece of an IPv6 address: one to four hexadecimal digits. -/
def piece? (cs : List Char) : Option Nat :=
  if cs.isEmpty || 4 < cs.length then none else Digits.value? 16 cs

/-- The pieces between single colons, the last of which may be an IPv4 address. -/
def pieces? (cs : List Char) : Option (List Nat) :=
  let parts := Text.pieces ':' cs
  match parts.getLast? with
  | some last =>
    if last.contains '.' then do
      let octets ← (Text.pieces '.' last).mapM fun o ↦
        if o.isEmpty || (o.head? == some '0' && 1 < o.length) then none
        else (Digits.value? 10 o).filter (· < 256)
      match octets with
      | [a, b, c, d] =>
        let before ← parts.dropLast.mapM piece?
        some (before ++ [a * 256 + b, c * 256 + d])
      | _ => none
    else parts.mapM piece?
  | none => none

/-- The parts before and after the first `::`. -/
def splitDoubleColon : List Char → Option (List Char × List Char)
  | ':' :: ':' :: rest => some ([], rest)
  | c :: rest => (splitDoubleColon rest).map fun (before, after) ↦ (c :: before, after)
  | [] => none

/-- The pieces of a side of a `::`, none when it is empty. -/
def sidePieces? (cs : List Char) : Option (List Nat) := if cs.isEmpty then some [] else pieces? cs

/-- The eight pieces of an IPv6 address. -/
def ipv6Pieces? (cs : List Char) : Option (List Nat) :=
  match splitDoubleColon cs with
  | some (before, after) => do
    let before ← sidePieces? before
    let after ← sidePieces? after
    let known := before.length + after.length
    if known < 8 then some (before ++ List.replicate (8 - known) 0 ++ after) else none
  | none => (pieces? cs).filter (·.length == 8)

/-- The length of the run of zeros at the start. -/
def zeroRun (ps : List Nat) : Nat := (ps.takeWhile (· == 0)).length

/-- Where the first longest run of two or more zeros begins, and its length. -/
def longestZeroRun (ps : List Nat) : Option (Nat × Nat) :=
  (List.range ps.length).foldl (fun best i ↦
    let run := zeroRun (ps.drop i)
    if 2 ≤ run && (match best with | some (_, n) => n < run | none => true) then some (i, run)
    else best) none

/-- Pieces between colons. -/
def joinPieces (ps : List Nat) : List Char :=
  (List.intersperse [':'] (ps.map (Nat.toDigits 16))).flatten

/-- The written form of an IPv6 address, its longest run of zeros left out. -/
def ipv6Text (ps : List Nat) : List Char :=
  let inner :=
    match longestZeroRun ps with
    | some (i, n) => joinPieces (ps.take i) ++ ':' :: ':' :: joinPieces (ps.drop (i + n))
    | none => joinPieces ps
  '[' :: inner ++ [']']

/-- Reads an IPv6 address behind its opening bracket. -/
def ipv6? (cs : List Char) : Option (List Char) :=
  if cs.getLast? == some ']' then (ipv6Pieces? cs.dropLast).map ipv6Text else none

/-! ### Hosts -/

/-- The normal form of a host, if it is one. -/
def normal? (cs : List Char) : Option (List Char) :=
  match cs with
  | '[' :: rest => ipv6? rest
  | cs => do
    let name ← Domain.ascii? (← Text.Utf8.decode? (Text.Percent.decode cs))
    if endsInNumber name then ipv4? name else some name

/-- The characters that have a meaning elsewhere in an address. -/
def isDelimiter (c : Char) : Bool :=
  c == '\x00' || c == ' ' || "#/:<>?@[\\]^|".toList.contains c

/-- The form of a host under a scheme without rules of its own; it may be empty. -/
def written? (cs : List Char) : Option (List Char) :=
  match cs with
  | '[' :: rest => ipv6? rest
  | cs => if cs.any isDelimiter then none else some (Text.Percent.escape [] cs)

end AccountDirectory.Http.Host
