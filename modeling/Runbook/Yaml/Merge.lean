import Runbook.Yaml.Node

/-!
# Merging mappings

A merge key takes the entries of another mapping, or of several ones, into its own mapping, where
they stand in front. Merging changes the table of nodes for good: the merge keys go, the entries
come, and a default key becomes a text. A mapping that is reached again while its own entries are
being merged gives what it holds by then.
-/

namespace Runbook.Yaml

/-- The node at a place. -/
def nodeAt (nodes : Array Node) (id : Nat) : Node := nodes.getD id default

/-- The entries of a node that is a mapping. -/
def entriesAt? (nodes : Array Node) (id : Nat) : Option (List (Nat × Nat)) :=
  match (nodeAt nodes id).content with
  | .mapping entries => some entries
  | _ => none

/-- Whether an entry stands under a merge key. -/
def isMerge (nodes : Array Node) (entry : Nat × Nat) : Bool :=
  (nodeAt nodes entry.1).kind = .merge

/-- The number of entries under merge keys. Each step of merging removes one of them. -/
def countMerges (nodes : Array Node) : Nat :=
  nodes.foldl (fun count node =>
    match node.content with
    | .mapping entries => count + entries.countP (isMerge nodes)
    | _ => count) 0

/-- The table with other entries in a mapping. -/
def setEntries (entries : List (Nat × Nat)) (id : Nat) (nodes : Array Node) : Array Node :=
  nodes.modify id fun node => { node with content := .mapping entries }

/-- The table with a key that is a text if it was a default key. -/
def settleKey (nodes : Array Node) (key : Nat) : Array Node :=
  nodes.modify key fun node =>
    if node.kind = .defaultValue then { node with kind := .str } else node

/-- The table in which a mapping has no merge key: the entries gathered so far stand in front of
its own ones. -/
def merge (fuel : Nat) (gathered : List (Nat × Nat)) (id : Nat) (nodes : Array Node) :
    Option (Array Node) :=
  match fuel with
  | 0 => none
  | fuel + 1 =>
    match entriesAt? nodes id with
    | none => none
    | some entries =>
      match entries.find? (isMerge nodes) with
      | none =>
        let entries := gathered ++ entries
        some (entries.foldl (fun nodes entry => settleKey nodes entry.1)
          (setEntries entries id nodes))
      | some entry =>
        let nodes := setEntries (entries.eraseP (isMerge nodes)) id nodes
        let source (nodes : Array Node) (other : Nat) :
            Option (Array Node × List (Nat × Nat)) :=
          (merge fuel [] other nodes).bind fun nodes =>
            (entriesAt? nodes other).map fun entries => (nodes, entries)
        let taken : Option (Array Node × List (Nat × Nat)) :=
          match (nodeAt nodes entry.2).content with
          | .mapping _ => source nodes entry.2
          | .sequence items =>
            items.foldlM (fun (nodes, taken) item =>
              (source nodes item).map fun (nodes, entries) => (nodes, entries ++ taken)) (nodes, [])
          | _ => none
        taken.bind fun (nodes, entries) => merge fuel (gathered ++ entries) id nodes

/-- The table in which a mapping is merged with the mappings under its merge keys. -/
def mergeAt? (id : Nat) (nodes : Array Node) : Option (Array Node) :=
  merge (countMerges nodes + 1) [] id nodes

end Runbook.Yaml
