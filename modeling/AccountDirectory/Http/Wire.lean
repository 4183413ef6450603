import AccountDirectory.Http.Exchange
import AccountDirectory.Number.Digits

/-!
# Requests and responses as octets

The form that messages have on a connection which carries one request and one response and is then
closed. `Response.ofWire?` reads a whole response: its body comes in chunks, has a stated length, or
goes on to the end. A response that breaks off is no response.
-/

namespace AccountDirectory.Http

/-! ### Requests -/

/-- The header lines of a request whose body has this length. -/
def Request.headers (r : Request) (length : Nat) : List (String × String) :=
  [("host", (r.url.authority.map (·.hostText)).getD ""), ("accept", "*/*"),
      ("connection", "close")] ++
    r.authorizations.map (("authorization", ·)) ++
    (if r.body.isSome then
      [("content-type", "application/json"), ("content-length", toString length)]
    else [])

/-- The octets of a request. -/
def Request.wire (r : Request) : List UInt8 :=
  let body : List UInt8 :=
    match r.body with
    | some v => Text.Utf8.encode v.compact.toList
    | none => []
  let head := r.method.name ++ " " ++ r.url.target ++ " HTTP/1.1\r\n" ++
    String.join ((r.headers body.length).map fun (name, value) ↦ name ++ ": " ++ value ++ "\r\n") ++
    "\r\n"
  Text.Utf8.encode head.toList ++ body

/-! ### Responses -/

/-- The lines up to the first empty one, without their ends, and the octets behind them; `line`
holds the characters of the current line, last first. -/
def headLines (line : List Char) : List UInt8 → Option (List (List Char) × List UInt8)
  | [] => none
  | b :: rest =>
    if b = 10 then
      let line := if line.head? == some '\r' then line.tail else line
      if line.isEmpty then some ([], rest)
      else (headLines [] rest).map fun (lines, rest) ↦ (line.reverse :: lines, rest)
    else headLines (Char.ofNat b.toNat :: line) rest

/-- The status that a status line states. -/
def statusOf? (line : List Char) : Option Nat :=
  match Text.pieces ' ' line with
  | _ :: digits :: _ =>
    (Digits.value? 10 digits).bind fun n ↦ if isStatus n then some n else none
  | _ => none

/-- The name of a header in small letters and its value. -/
def headerOf (line : List Char) : List Char × List Char :=
  let name := line.takeWhile (· ≠ ':')
  (Text.asciiLower name, Text.trimBoth (line.drop (name.length + 1)))

/-- The octets in chunks, each with its length before it, up to an empty one. -/
def joinChunks : Nat → List UInt8 → Option (List UInt8)
  | 0, _ => none
  | fuel + 1, bs =>
    let line := bs.takeWhile (· ≠ 10)
    let size := (line.map fun b ↦ Char.ofNat b.toNat).takeWhile fun c ↦
      c ≠ ';' && c ≠ '\r' && c ≠ ' '
    let rest := bs.drop (line.length + 1)
    match if size.isEmpty then none else Digits.value? 16 size with
    | none => none
    | some 0 => some []
    | some n =>
      if rest.length < n then none
      else
        (joinChunks fuel ((rest.drop n).dropWhile fun b ↦ b = 13 ∨ b = 10)).map (rest.take n ++ ·)

/-- The body that the headers announce. -/
def bodyOf? (headers : List (List Char × List Char)) (bs : List UInt8) : Option (List UInt8) :=
  match headers.lookup "transfer-encoding".toList, headers.lookup "content-length".toList with
  | some _, _ => joinChunks (bs.length + 1) bs
  | none, some digits =>
    (Digits.value? 10 digits).bind fun n ↦ if bs.length < n then none else some (bs.take n)
  | none, none => some bs

/-- The response that the octets spell. -/
def Response.ofWire? (bs : List UInt8) : Option Response := do
  let (lines, rest) ← headLines [] bs
  let status ← lines.head?.bind statusOf?
  if status = 204 ∨ status = 304 then some ⟨status, []⟩
  else (bodyOf? (lines.tail.map headerOf) rest).map (⟨status, ·⟩)

end AccountDirectory.Http
