import AccountDirectory.Yaml.Token

/-!
# Nodes of a YAML document

`Node.ofText?` reads a text that holds at most one document. A node is a scalar, a list, a table or
an alias of a node that carries an anchor.

The grammar needs one token of lookahead. Two of its rules are worth saying:

* a list may stand as a value in a table at the column of the table's keys, and then has no tokens
  of its own that open and close it;
* an entry of a flow list may be a table of one entry without braces. When its marked key is empty,
  the token behind the mark is dropped.
-/

namespace AccountDirectory.Yaml

/-- What may be written before a node. -/
structure Properties where
  anchor : Option Nat := none
  tag : Option Tag := none

/-- A node of a document. -/
inductive Node
  | scalar (properties : Properties) (plain : Bool) (text : String)
  | list (properties : Properties) (items : List Node)
  | table (properties : Properties) (entries : List (Node × Node))
  | aliasOf (anchor : Nat)
  deriving Inhabited

namespace Node

/-- The plain scalar without characters. -/
def nothing : Node := .scalar {} true ""

/-! ### Properties -/

/-- The handles of a document: what the tags under each begin with. -/
abbrev Handles : Type := List (Option (List Char) × Tag)

/-- The handles of every document. -/
def standardHandles : Handles :=
  [(none, Tag.ofText "!"), (some [], Tag.ofText "tag:yaml.org,2002:")]

/-- The tag that is written, when its handle is bound. -/
def tagOf? (handles : Handles) : Tag.Written → Option Tag
  | .full tag => some tag
  | .short name suffix => (handles.lookup name).map (· ++ suffix)

/-- Reads the properties before a node: an anchor and a tag in either order. -/
def properties (handles : Handles) : List Token → Option (Properties × List Token)
  | .anchor number :: .tag written :: rest =>
    (tagOf? handles written).map fun tag ↦ (⟨some number, some tag⟩, rest)
  | .tag written :: .anchor number :: rest =>
    (tagOf? handles written).map fun tag ↦ (⟨some number, some tag⟩, rest)
  | .anchor number :: rest => some (⟨some number, none⟩, rest)
  | .tag written :: rest => (tagOf? handles written).map fun tag ↦ (⟨none, some tag⟩, rest)
  | rest => some ({}, rest)

/-! ### Collections -/

/-- These tokens begin with a token that ends a key or a value of a block table. -/
def endsInTable : List Token → Bool
  | .key :: _ | .value :: _ | .blockEnd :: _ => true
  | _ => false

/-- These tokens begin with a token that ends an entry of a block list. -/
def endsInList : List Token → Bool
  | .blockEntry :: _ | .blockEnd :: _ => true
  | _ => false

/-- These tokens begin with a token that ends an entry of a flow list. -/
def endsInFlowList : List Token → Bool
  | .flowEntry :: _ | .flowListEnd :: _ => true
  | _ => false

/-- These tokens begin with a token that ends an entry of a flow table. -/
def endsInFlowTable : List Token → Bool
  | .flowEntry :: _ | .flowTableEnd :: _ => true
  | _ => false

/-- These tokens begin with the indicator of a value. -/
def valueAhead : List Token → Bool
  | .value :: _ => true
  | _ => false

mutual

/-- Reads a node; `block` says whether it may have block style, and `flush` whether a list may stand
at the column of the keys around it. All readers here recurse at most `fuel` deep. -/
def read (handles : Handles) (fuel : Nat) (block flush : Bool) (tokens : List Token) :
    Option (Node × List Token) :=
  match fuel, tokens with
  | 0, _ => none
  | _ + 1, .aliasOf anchor :: rest => some (.aliasOf anchor, rest)
  | fuel + 1, tokens => do
    let (p, tokens) ← properties handles tokens
    match tokens with
    | .scalar plain text :: rest => some (.scalar p plain (String.ofList text), rest)
    | .flowListStart :: rest =>
      let (items, rest) ← readFlowList handles fuel true rest
      some (.list p items, rest)
    | .flowTableStart :: rest =>
      let (entries, rest) ← readFlowTable handles fuel true rest
      some (.table p entries, rest)
    | tokens =>
      match block, flush, tokens with
      | _, true, .blockEntry :: _ =>
        let (items, rest) ← readFlushList handles fuel tokens
        some (.list p items, rest)
      | true, _, .blockListStart :: rest =>
        let (items, rest) ← readBlockList handles fuel rest
        some (.list p items, rest)
      | true, _, .blockTableStart :: rest =>
        let (entries, rest) ← readBlockTable handles fuel rest
        some (.table p entries, rest)
      | _, _, tokens =>
        if p.anchor.isSome || p.tag.isSome then some (.scalar p true "", tokens) else none

/-- Reads a node, or nothing where the entry ends at once. -/
def readOr (handles : Handles) (fuel : Nat) (block flush ends : Bool) (tokens : List Token) :
    Option (Node × List Token) :=
  match fuel with
  | 0 => none
  | fuel + 1 => if ends then some (nothing, tokens) else read handles fuel block flush tokens

/-- Reads the items of a block list and its end. -/
def readBlockList (handles : Handles) (fuel : Nat) (tokens : List Token) :
    Option (List Node × List Token) :=
  match fuel, tokens with
  | fuel + 1, .blockEntry :: rest => do
    let (item, rest) ← readOr handles fuel true false (endsInList rest) rest
    let (items, rest) ← readBlockList handles fuel rest
    some (item :: items, rest)
  | _ + 1, .blockEnd :: rest => some ([], rest)
  | _, _ => none

/-- Reads the items of a list that stands at the column of the keys around it. -/
def readFlushList (handles : Handles) (fuel : Nat) (tokens : List Token) :
    Option (List Node × List Token) :=
  match fuel, tokens with
  | 0, _ => none
  | fuel + 1, .blockEntry :: rest => do
    let (item, rest) ←
      readOr handles fuel true false (endsInList rest || endsInTable rest) rest
    let (items, rest) ← readFlushList handles fuel rest
    some (item :: items, rest)
  | _ + 1, rest => some ([], rest)

/-- Reads the entries of a block table and its end. -/
def readBlockTable (handles : Handles) (fuel : Nat) (tokens : List Token) :
    Option (List (Node × Node) × List Token) :=
  match fuel, tokens with
  | fuel + 1, .key :: rest => do
    let (key, rest) ← readOr handles fuel true true (endsInTable rest) rest
    let (value, rest) ← readBlockValue handles fuel rest
    let (entries, rest) ← readBlockTable handles fuel rest
    some ((key, value) :: entries, rest)
  | _ + 1, .blockEnd :: rest => some ([], rest)
  | _, _ => none

/-- Reads the value of an entry of a block table. -/
def readBlockValue (handles : Handles) (fuel : Nat) (tokens : List Token) :
    Option (Node × List Token) :=
  match fuel, tokens with
  | 0, _ => none
  | fuel + 1, .value :: rest => readOr handles fuel true true (endsInTable rest) rest
  | _ + 1, rest => some (nothing, rest)

/-- Reads the items of a flow list and its end; `first` holds before the first one. -/
def readFlowList (handles : Handles) (fuel : Nat) (first : Bool) (tokens : List Token) :
    Option (List Node × List Token) :=
  match fuel, tokens with
  | 0, _ => none
  | _ + 1, .flowListEnd :: rest => some ([], rest)
  | fuel + 1, tokens => do
    let tokens ←
      match first, tokens with
      | true, tokens => some tokens
      | false, .flowEntry :: rest => some rest
      | false, _ => none
    match tokens with
    | .flowListEnd :: rest => some ([], rest)
    | .key :: rest =>
      let (key, rest) ←
        if valueAhead rest || endsInFlowList rest then some (nothing, rest.drop 1)
        else read handles fuel false false rest
      let (value, rest) ←
        match rest with
        | .value :: rest => readOr handles fuel false false (endsInFlowList rest) rest
        | rest => some (nothing, rest)
      let (items, rest) ← readFlowList handles fuel false rest
      some (.table {} [(key, value)] :: items, rest)
    | tokens =>
      let (item, rest) ← read handles fuel false false tokens
      let (items, rest) ← readFlowList handles fuel false rest
      some (item :: items, rest)

/-- Reads the entries of a flow table and its end; `first` holds before the first one. -/
def readFlowTable (handles : Handles) (fuel : Nat) (first : Bool) (tokens : List Token) :
    Option (List (Node × Node) × List Token) :=
  match fuel, tokens with
  | 0, _ => none
  | _ + 1, .flowTableEnd :: rest => some ([], rest)
  | fuel + 1, tokens => do
    let tokens ←
      match first, tokens with
      | true, tokens => some tokens
      | false, .flowEntry :: rest => some rest
      | false, _ => none
    match tokens with
    | .flowTableEnd :: rest => some ([], rest)
    | .key :: rest =>
      let (key, rest) ←
        readOr handles fuel false false (valueAhead rest || endsInFlowTable rest) rest
      let (value, rest) ←
        match rest with
        | .value :: rest => readOr handles fuel false false (endsInFlowTable rest) rest
        | rest => some (nothing, rest)
      let (entries, rest) ← readFlowTable handles fuel false rest
      some ((key, value) :: entries, rest)
    | tokens =>
      let (key, rest) ← read handles fuel false false tokens
      let (entries, rest) ← readFlowTable handles fuel false rest
      some ((key, nothing) :: entries, rest)

end

/-! ### Documents -/

/-- Reads the directives before a document: at most one version, and no handle bound twice. -/
def directives (version : Bool) (handles : Handles) : List Token → Option (Handles × List Token)
  | .versionDirective :: rest => if version then none else directives true handles rest
  | .tagDirective handle leading :: rest =>
    if handles.any (·.1 == handle) then none
    else directives version (handles ++ [(handle, leading)]) rest
  | rest => some (handles, rest)

/-- A document begins here with directives or a mark of its own. -/
def isExplicit : List Token → Bool
  | .versionDirective :: _ | .tagDirective .. :: _ | .documentStart :: _ => true
  | _ => false

/-- The document has no content before these tokens. -/
def endsDocument : List Token → Bool
  | [] | .documentEnd :: _ => true
  | tokens => isExplicit tokens

/-- The tokens are nothing but marks that end a document. -/
def areDocumentEnds (tokens : List Token) : Bool :=
  tokens.all fun t ↦
    match t with
    | .documentEnd => true
    | _ => false

/-- The one document that the tokens hold, or none at all. -/
def ofTokens? (tokens : List Token) : Option (Option Node) :=
  let fuel := 4 * tokens.length + 4
  if tokens.isEmpty then some none
  else if isExplicit tokens then do
    let (handles, tokens) ← directives false [] tokens
    match tokens with
    | .documentStart :: rest =>
      let handles := handles ++ standardHandles
      let (root, rest) ← readOr handles fuel true false (endsDocument rest) rest
      if areDocumentEnds rest then some (some root) else none
    | _ => none
  else do
    let (root, rest) ← read standardHandles fuel true false tokens
    if areDocumentEnds rest then some (some root) else none

/-- The one document that a text holds, or none at all. -/
def ofText? (s : String) : Option (Option Node) := do
  ofTokens? (← Token.scan? (← characters? s))

end Node

end AccountDirectory.Yaml
