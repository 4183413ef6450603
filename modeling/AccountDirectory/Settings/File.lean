import AccountDirectory.Settings.Layer
import AccountDirectory.Text.Blank
import AccountDirectory.Yaml.Node
import AccountDirectory.Yaml.Schema

/-!
# Files of settings

A file of settings is a YAML text with one table at its root (`Setting.ofFile?`). A file without
content has no settings, and so has one whose root is the empty plain scalar.

Any scalar may be a key, and stands for its own text there. Aliases stand for the nodes they name.
Collections are nested at most 128 deep, aliases followed, and there are at most a hundred times as
many aliases to follow as there are nodes and ends of collections in the document.

Two things stand for more than they say, below the root:

* a node with a local tag is a table with one entry, whose key is the name of the tag; a name with
  dots is a path of keys;
* a table with the key `valueKey` is the value under that key. Next to it the number of its source
  may stand under `sourceKey`, which is no setting.
-/

namespace AccountDirectory

namespace Yaml.Node

mutual

/-- How many scalars, aliases, and beginnings and ends of collections the node consists of. -/
def marks : Node → Nat
  | .scalar .. => 1
  | .aliasOf _ => 1
  | .list _ items => 2 + marksOfItems items
  | .table _ entries => 2 + marksOfEntries entries

/-- The same for the items of a list. -/
def marksOfItems : List Node → Nat
  | [] => 0
  | node :: rest => marks node + marksOfItems rest

/-- The same for the entries of a table. -/
def marksOfEntries : List (Node × Node) → Nat
  | [] => 0
  | (key, value) :: rest => marks key + marks value + marksOfEntries rest

end

/-- The anchor of a node, if it has one, with the node. -/
def named (p : Properties) (node : Node) : List (Nat × Node) :=
  match p.anchor with
  | some number => [(number, node)]
  | none => []

mutual

/-- The nodes with anchors inside a node, in the order in which they begin. -/
def anchored : Node → List (Nat × Node)
  | .scalar p plain text => named p (.scalar p plain text)
  | .aliasOf _ => []
  | .list p items => named p (.list p items) ++ anchoredItems items
  | .table p entries => named p (.table p entries) ++ anchoredEntries entries

/-- The same for the items of a list. -/
def anchoredItems : List Node → List (Nat × Node)
  | [] => []
  | node :: rest => anchored node ++ anchoredItems rest

/-- The same for the entries of a table. -/
def anchoredEntries : List (Node × Node) → List (Nat × Node)
  | [] => []
  | (key, value) :: rest => anchored key ++ anchored value ++ anchoredEntries rest

end

end Yaml.Node

namespace Setting

open Yaml (Node)

/-- What a reading of nodes needs to know of the document. -/
structure Surroundings where
  /-- The node that each anchor names. -/
  nodes : List (Nat × Node)
  /-- How many aliases may be followed. -/
  limit : Nat

/-- A reading of nodes, which counts the aliases that it has followed. -/
abbrev Reading (α : Type) : Type := StateT Nat Option α

/-- The node that a node stands for. -/
def follow (around : Surroundings) : Node → Reading Node
  | .aliasOf anchor => do
    let followed ← get
    guard (followed < around.limit)
    set (followed + 1)
    (around.nodes.lookup anchor : Option Node)
  | node => pure node

/-- The setting that a scalar stands for. -/
def ofScalar : Yaml.Scalar → Setting
  | .nothing => .empty
  | .bool b => .bool b
  | .integer n => .integer n
  | .fraction => .fractional
  | .text s => .text s

/-- The text of a scalar, as a key. -/
def keyOf (around : Surroundings) (node : Node) : Reading String := do
  match ← follow around node with
  | .scalar _ _ spelled => pure spelled
  | _ => failure

/-- The path of keys that the name of a local tag leads along: its parts between dots, up to an
empty one. -/
def pathOf (name : List Char) : List String :=
  ((Text.pieces '.' name).takeWhile (!·.isEmpty)).map String.ofList

/-- A node with this tag, from what it stands for without it. -/
def tagged (tag : Option Yaml.Tag) (s : Setting) : Setting :=
  match tag.bind Yaml.Tag.localName? with
  | some name => nested (pathOf name) s
  | none => s

/-- The key of the value that a table stands for as a whole. -/
def valueKey : String := "___figment_value_value"

/-- The key of the number of the source that a value comes from. -/
def sourceKey : String := "___figment_value_id"

/-- The scalar is a natural of 64 bits, as the number of a source has to be. -/
def isSource : Node → Bool
  | .scalar p plain spelled =>
    match p.tag.bind Yaml.Tag.localName?, Yaml.Scalar.of? p.tag plain spelled with
    | none, some (.integer n) => 0 ≤ n && n < 0x10000000000000000
    | _, _ => false
  | _ => false

/-- The setting that a table with these entries stands for. -/
def ofEntries (entries : List (String × Setting)) : Setting :=
  let table := tableOf entries
  (table.lookup valueKey).getD (.table table)

/-- The setting that a node stands for, with at most `depth` collections inside each other. -/
def ofNode (around : Surroundings) (depth : Nat) (node : Node) : Reading Setting := do
  match ← follow around node with
  | .scalar p plain spelled =>
    let tag := p.tag.filter fun tag ↦ tag.localName?.isNone
    let scalar ← (Yaml.Scalar.of? tag plain spelled : Option Yaml.Scalar)
    pure (tagged p.tag (ofScalar scalar))
  | .list p items =>
    match depth with
    | 0 => failure
    | depth + 1 =>
      let items ← items.mapM (ofNode around depth)
      pure (tagged p.tag (.list items))
  | .table p entries =>
    match depth with
    | 0 => failure
    | depth + 1 =>
      let entries ← entries.mapM fun (key, value) ↦ do
        let key ← keyOf around key
        if key = sourceKey then
          guard (isSource (← follow around value))
          pure none
        else pure (some (key, ← ofNode around depth value))
      pure (tagged p.tag (ofEntries (entries.filterMap id)))
  | .aliasOf _ => failure

/-- The settings of a document's root, which takes every key as it is. -/
def ofRoot? (root : Node) : Option Setting :=
  let around : Surroundings := ⟨root.anchored.reverse, 100 * root.marks⟩
  match root with
  | .scalar _ plain spelled => if plain && spelled.isEmpty then some (.table []) else none
  | .table _ entries =>
    let entries : Reading (List (String × Setting)) := entries.mapM fun (key, value) ↦ do
      pure (← keyOf around key, ← ofNode around 127 value)
    (entries.run 0).map fun (entries, _) ↦ .table (tableOf entries)
  | _ => none

/-- The settings of a file. -/
def ofFile? (content : String) : Option Setting :=
  (Node.ofText? content).bind fun root ↦
    match root with
    | none => some (.table [])
    | some root => ofRoot? root

end Setting

end AccountDirectory
