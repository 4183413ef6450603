import AccountDirectory.Settings

/-!
# Layers of settings

A layer is a tree of settings as a source gives it. Layers are merged leaf by leaf (`Setting.layeredOver`):
a table over a table keeps what only one of them has, and anything else hides what is below it.

Reading the merged tree (`Settings.ofTable`) checks names and types. Numbers and texts are never
turned into each other. A section may also be given as a list of its settings in declared order.

## Which failure is reported

Tables are read in the order of their keys, and the first failure ends the reading. Its path leads
from the root to the setting that failed.
-/

namespace AccountDirectory

/-- A tree of settings. -/
inductive Setting
  /-- Explicitly nothing. -/
  | empty
  | bool (b : Bool)
  | integer (n : Int)
  /-- A number with a fraction or an exponent; no setting takes one, so its value is not kept. -/
  | fractional
  | text (s : String)
  | list (items : List Setting)
  | table (entries : List (String × Setting))
  deriving Inhabited

/-- The kind of a failure to load settings. -/
inductive SettingsFault
  /-- A source cannot be read. -/
  | unreadable
  | invalidType
  | invalidValue
  | unknownField (name : String)
  deriving DecidableEq

/-- A failure to load settings, and the path to it. -/
structure SettingsError where
  fault : SettingsFault
  path : List String
  deriving DecidableEq

/-- The same failure, seen from one level further out. -/
def SettingsError.under (key : String) (e : SettingsError) : SettingsError :=
  { e with path := key :: e.path }

/-! ### Tables -/

namespace Setting

/-- Puts an entry into a table in the order of the keys, in place of an entry with that key. -/
def insert (key : String) (s : Setting) : List (String × Setting) → List (String × Setting)
  | [] => [(key, s)]
  | (k, t) :: rest =>
    if key < k then (key, s) :: (k, t) :: rest
    else if key = k then (key, s) :: rest
    else (k, t) :: insert key s rest

/-- The table with these entries, of repeated ones the last. -/
def tableOf (entries : List (String × Setting)) : List (String × Setting) :=
  entries.foldl (fun table (key, s) ↦ insert key s table) []

mutual

/-- A setting over another one. -/
def layeredOver : Setting → Setting → Setting
  | .table upper, .table lower => .table (entriesOver upper lower)
  | upper, _ => upper

/-- The entries of a table over those of another one. -/
def entriesOver : List (String × Setting) → List (String × Setting) → List (String × Setting)
  | [], lower => lower
  | (key, s) :: rest, lower =>
    let merged :=
      match lower.lookup key with
      | some t => layeredOver s t
      | none => s
    insert key merged (entriesOver rest lower)

end

/-- The tree that holds one setting under a path of keys. -/
def nested : List String → Setting → Setting
  | [], s => s
  | key :: rest, s => .table [(key, nested rest s)]

end Setting

/-! ### Reading settings -/

namespace Settings

/-- The outcome of reading settings. -/
abbrev Outcome (α : Type) : Type := Except SettingsError α

/-- Fails here. -/
def fault {α : Type} (f : SettingsFault) : Outcome α := .error ⟨f, []⟩

/-- Reads a text. -/
def text : Setting → Outcome String
  | .text s => .ok s
  | _ => fault .invalidType

/-- Reads a text or nothing. -/
def optionalText : Setting → Outcome (Option String)
  | .empty => .ok none
  | s => (text s).map some

/-- Reads a natural of 64 bits; negative integers of 64 bits are of the right type but have the
wrong value. -/
def natural : Setting → Outcome Nat
  | .integer n =>
    if 0 ≤ n then if n < 0x10000000000000000 then .ok n.toNat else fault .invalidType
    else if -0x8000000000000000 ≤ n then fault .invalidValue
    else fault .invalidType
  | _ => fault .invalidType

/-- A field of a section: its name and how its setting changes the section. -/
structure Field (α : Type) where
  name : String
  read : α → Setting → Outcome α

/-- A field from a reader and an update. -/
def field {α β : Type} (name : String) (reader : Setting → Outcome β) (put : α → β → α) : Field α :=
  ⟨name, fun a s ↦ (reader s).map (put a)⟩

/-- Reads the entries of a table into a section. -/
def readEntries {α : Type} (fields : List (Field α)) : α → List (String × Setting) → Outcome α
  | a, [] => .ok a
  | a, (key, s) :: rest =>
    match fields.find? (·.name == key) with
    | none => .error ⟨.unknownField key, [key]⟩
    | some f => do
      let a ← (f.read a s).mapError (·.under key)
      readEntries fields a rest

/-- Reads a list of settings into the fields in their order; more settings than fields do not
count. -/
def readItems {α : Type} : List (Field α) → Nat → α → List Setting → Outcome α
  | f :: fields, i, a, s :: rest => do
    let a ← (f.read a s).mapError (·.under (toString i))
    readItems fields (i + 1) a rest
  | _, _, a, _ => .ok a

/-- Reads a section. -/
def readSection {α : Type} (fields : List (Field α)) (default : α) : Setting → Outcome α
  | .table entries => readEntries fields default entries
  | .list items => readItems fields 0 default items
  | _ => fault .invalidType

/-- The fields of the service token section, in their order. -/
def serviceTokenFields : List (Field ServiceTokenSettings) :=
  [ field "client_id" text fun s v ↦ { s with clientId := v },
    field "client_secret" text fun s v ↦ { s with clientSecret := v },
    field "audience" optionalText fun s v ↦ { s with audience := v },
    field "refresh_margin_secs" natural fun s v ↦ { s with refreshMargin := v } ]

/-- Reads the service token section. -/
def serviceTokenSection : Setting → Outcome ServiceTokenSettings :=
  readSection serviceTokenFields {}

/-- The fields of the verifier section, in their order. -/
def verifierFields : List (Field VerifierSettings) :=
  [ field "issuer" optionalText fun s v ↦ { s with issuer := v },
    field "audience" optionalText fun s v ↦ { s with audience := v },
    field "jwks_cache_ttl_secs" natural fun s v ↦ { s with keySetLifetime := v },
    field "leeway_secs" natural fun s v ↦ { s with leeway := v } ]

/-- Reads the verifier section. -/
def verifierSection : Setting → Outcome VerifierSettings := readSection verifierFields {}

/-- The fields of the transport section, in their order. -/
def transportFields : List (Field TransportSettings) :=
  [ field "timeout_secs" natural fun s v ↦ { s with timeout := v },
    field "connect_timeout_secs" natural fun s v ↦ { s with connectTimeout := v } ]

/-- Reads the transport section. -/
def transportSection : Setting → Outcome TransportSettings := readSection transportFields {}

/-- The fields of the root, in their order. -/
def rootFields : List (Field Settings) :=
  [ field "domain" text fun s v ↦ { s with domain := v },
    field "m2m" serviceTokenSection fun s v ↦ { s with serviceToken := v },
    field "jwt" verifierSection fun s v ↦ { s with verifier := v },
    field "http" transportSection fun s v ↦ { s with transport := v } ]

/-- Reads the settings of a tenant from the root of a tree. -/
def ofSetting : Setting → Outcome Settings := readSection rootFields {}

end Settings

end AccountDirectory
