/-!
# Arguments of the command line

A command line is `[flags] command [flags and a word]`. The flags `--config` and `--log-format` may
stand on either side of the command; the one behind it counts when both do.

Arguments are read from left to right, and the first one that settles the outcome does so: a request
for help or for the version, or a mistake. Only a command line without mistakes is completed from
the environment, and then checked for what is missing.
-/

namespace AccountDirectory.CommandLine

/-- The form of the log. -/
inductive LogFormat
  | text
  | json
  deriving DecidableEq

/-- What is to be done. -/
inductive Command
  | lookup (input : String)
  | get (userId : String) (token : Option String)
  | search (term criteria : String) (token : Option String)
  | resolve (input : String)
  | update (token metadata : String)
  deriving DecidableEq

/-- A complete command line. -/
structure Invocation where
  /-- The file of settings. -/
  config : Option String
  logFormat : LogFormat
  command : Command
  deriving DecidableEq

/-- Why a command line does not lead to a command. -/
inductive Stop
  | help
  | version
  | misuse
  deriving DecidableEq

/-! ### Words of the command line -/

/-- The name of a command. -/
inductive Verb
  | lookup
  | get
  | search
  | resolve
  | update
  deriving DecidableEq

/-- The command with a name. -/
def Verb.ofName? (name : String) : Option Verb :=
  match name with
  | "lookup" => some .lookup
  | "get" => some .get
  | "search" => some .search
  | "resolve" => some .resolve
  | "update" => some .update
  | _ => none

/-- A flag that takes a value. -/
inductive Flag
  | config
  | logFormat
  | token
  | criteria
  | metadata
  deriving DecidableEq

/-- The flag with a name, without the hyphens. -/
def Flag.ofName? (name : String) : Option Flag :=
  match name with
  | "config" => some .config
  | "log-format" => some .logFormat
  | "token" => some .token
  | "criteria" => some .criteria
  | "metadata" => some .metadata
  | _ => none

/-- The log format with a name. -/
def LogFormat.ofName? (name : String) : Option LogFormat :=
  match name with
  | "text" => some .text
  | "json" => some .json
  | _ => none

/-- The flag may have this value. -/
def Flag.accepts (f : Flag) (value : String) : Bool :=
  match f with
  | .config => value != ""
  | .logFormat => (LogFormat.ofName? value).isSome
  | _ => true

/-- The flag may stand before the command (`none`) or behind it. -/
def Flag.standsAt (f : Flag) (place : Option Verb) : Bool :=
  match f, place with
  | .config, _ | .logFormat, _ => true
  | .token, some .get | .token, some .search | .token, some .update => true
  | .criteria, some .search => true
  | .metadata, some .update => true
  | _, _ => false

/-- The command takes a word. -/
def Verb.takesWord (v : Verb) : Bool := v != .update

/-- An argument by its form. -/
inductive Argument
  /-- Two hyphens: all arguments behind them are words. -/
  | onlyWords
  /-- A name behind two hyphens, and the text behind an equals sign. -/
  | long (name : String) (value : Option String)
  /-- A letter behind one hyphen. -/
  | short (letter : Char)
  | word (s : String)

/-- The form of an argument; a hyphen alone is a word. -/
def Argument.ofText (s : String) : Argument :=
  match s.toList with
  | ['-', '-'] => .onlyWords
  | '-' :: '-' :: cs =>
    let name := cs.takeWhile (· ≠ '=')
    .long (String.ofList name)
      (if name.length < cs.length then some (String.ofList (cs.drop (name.length + 1))) else none)
  | '-' :: c :: _ => .short c
  | _ => .word s

/-! ### Reading -/

/-- What has been given on one side of the command. -/
structure Given where
  values : List (Flag × String) := []
  word : Option String := none

/-- The value of a flag. -/
def Given.value? (g : Given) (f : Flag) : Option String := g.values.lookup f

/-- Takes the value of a flag, which may have one only. -/
def Given.put (g : Given) (f : Flag) (value : String) : Except Stop Given :=
  if (g.value? f).isSome || !(f.accepts value) then .error .misuse
  else .ok { g with values := (f, value) :: g.values }

/-- Takes the word of a command. -/
def Given.putWord (g : Given) (place : Option Verb) (s : String) : Except Stop Given :=
  if place.any Verb.takesWord && g.word.isNone then .ok { g with word := some s }
  else .error .misuse

/-- What a name behind hyphens stands for when it is no flag that takes a value. -/
def stopOf (place : Option Verb) (isHelp isVersion : Bool) : Stop :=
  if isHelp then .help else if isVersion && place.isNone then .version else .misuse

/-- The arguments behind the word `help` name at most one command. -/
def helpOn : List String → Stop
  | [] => .help
  | [name] => if name = "help" ∨ (Verb.ofName? name).isSome then .help else .misuse
  | _ => .misuse

/-- Reads the arguments on one side of the command: before it (`none`), which ends with the command
and the arguments behind it, or behind it. -/
def readFrom (place : Option Verb) (onlyWords : Bool) (g : Given) :
    List String → Except Stop (Given × Option (Verb × List String))
  | [] => .ok (g, none)
  | arg :: rest =>
    if onlyWords then do readFrom place true (← g.putWord place arg) rest
    else
      match Argument.ofText arg with
      | .onlyWords => readFrom place true g rest
      | .short letter => .error (stopOf place (letter = 'h') (letter = 'V'))
      | .word s =>
        match place, Verb.ofName? s with
        | none, some v => .ok (g, some (v, rest))
        | none, none => .error (if s = "help" then helpOn rest else .misuse)
        | some _, _ => do readFrom place false (← g.putWord place s) rest
      | .long name value =>
        match (Flag.ofName? name).filter (·.standsAt place), value, rest with
        | none, none, _ => .error (stopOf place (name = "help") (name = "version"))
        | none, some _, _ => .error .misuse
        | some f, some value, rest => do readFrom place false (← g.put f value) rest
        | some _, none, [] => .error .misuse
        | some f, none, next :: rest =>
          match Argument.ofText next with
          | .word value => do readFrom place false (← g.put f value) rest
          | _ => .error .misuse

/-! ### Completing -/

/-- What is there, or a mistake. -/
def required {α : Type} (a : Option α) : Except Stop α := a.elim (.error .misuse) .ok

/-- The command that has been given behind its name, where a variable may hold the token. -/
def commandOf (v : Verb) (g : Given) (tokenVariable : Option String) : Except Stop Command := do
  let token := (g.value? .token).or tokenVariable
  match v with
  | .lookup => return .lookup (← required g.word)
  | .get => return .get (← required g.word) token
  | .search => return .search (← required g.word) ((g.value? .criteria).getD "username") token
  | .resolve => return .resolve (← required g.word)
  | .update => return .update (← required token) (← required (g.value? .metadata))

/-- The variable that names the file of settings is well-formed wherever it is consulted: an empty
one is a mistake unless the flag stands on both sides of the command. -/
def configVariableFits (before behind : Given) (value : Option String) : Bool :=
  value.all (Flag.config.accepts ·) ||
    ((before.value? .config).isSome && (behind.value? .config).isSome)

/-- What the arguments ask for, where the variables of the environment supply what no flag gives. -/
def Invocation.ofArguments (arguments : List String) (environment : String → Option String) :
    Except Stop Invocation := do
  let (before, command) ← readFrom none false {} arguments
  let (verb, arguments) ← required command
  let (behind, _) ← readFrom (some verb) false {} arguments
  let configVariable := environment "UD_CONFIG"
  let command ← commandOf verb behind (environment "UD_TOKEN")
  if configVariableFits before behind configVariable then
    let value? := fun f ↦ (behind.value? f).or (before.value? f)
    .ok
      { config := (value? .config).or configVariable
        logFormat := ((value? .logFormat).bind LogFormat.ofName?).getD .text
        command }
  else .error .misuse

/-- The answer to a request for the version. -/
def versionText : String := "user-directory 0.1.0\n"

/-- The answer to a request for help. -/
def helpText : String :=
  "Resolve and update users in the identity directory\n\n" ++
  "Usage: user-directory [FLAGS] <COMMAND>\n\n" ++
  "Commands:\n" ++
  "  lookup <INPUT>                 Classify a token, a subject or a username\n" ++
  "  get <USER_ID>                  Fetch a user by directory id\n" ++
  "  search <TERM>                  Search a user by email or username\n" ++
  "  resolve <INPUT>                Classify, then fetch or search\n" ++
  "  update --metadata <METADATA>   Replace the metadata of the caller\n\n" ++
  "Flags:\n" ++
  "  --config <CONFIG>              The file of settings [env: UD_CONFIG]\n" ++
  "  --log-format <LOG_FORMAT>      The form of the log: text or json\n" ++
  "  --token <TOKEN>                The token of the caller [env: UD_TOKEN]\n" ++
  "  --criteria <CRITERIA>          What to search by: email or username\n" ++
  "  --version                      The version\n"

end AccountDirectory.CommandLine
