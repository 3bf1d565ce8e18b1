import Runbook.Yaml.Merge
import Runbook.Yaml.Token.Lexer

/-!
# Values of markup documents

The value of a document is built from its nodes, the root first and each collection before the ones
inside of it. What stands at a place is built once, however many aliases lead there, from what the
node holds by then: merging changes nodes. Only scalars can be keys, and the default key is a key
like any other. A reference to a collection around it is written by its distance.
-/

namespace Runbook.Yaml

/-- A scalar as a key. Values that do not equal themselves are one key only if their origin is the
same. -/
structure Key where
  origin : Nat
  value : Scalar
  deriving DecidableEq, Repr, Inhabited

namespace Key

/-- Whether two keys are the same. -/
def same (a b : Key) : Bool :=
  a.value.sameKey b.value && (a.value != .float .nan || a.origin == b.origin)

/-- Sets the place under a key: an equal key keeps its place and its form. -/
def set (key : Key) (id : Nat) : List (Key × Nat) → List (Key × Nat)
  | [] => [(key, id)]
  | (old, previous) :: entries =>
    if old.same key then (old, id) :: entries else (old, previous) :: set key id entries

end Key

/-- What was built at a place; collections refer to other places. -/
inductive Part where
  | scalar (key : Key)
  | list (items : List Nat)
  | pairs (items : List (Nat × Nat))
  | set (keys : List Key)
  | map (entries : List (Key × Nat))
  deriving DecidableEq, Repr, Inhabited

/-- The state of building: the nodes, what was built at their places, and the collections that were
begun, in order. -/
structure Builder where
  nodes : Array Node
  parts : Array (Option Part)
  begun : Array Nat

/-- What a node that stands for a scalar holds: its own text, or that of the value under the default
key of a mapping. -/
def scalarContent? (nodes : Array Node) (fuel : Nat) (id : Nat) : Option Content :=
  match fuel with
  | 0 => none
  | fuel + 1 =>
    match (nodeAt nodes id).content with
    | .mapping entries =>
      match entries.find? fun entry => (nodeAt nodes entry.1).kind = .defaultValue with
      | some entry => scalarContent? nodes fuel entry.2
      | none => none
    | .sequence _ => none
    | content => some content

/-- The scalar at a place. A moment has to be written by the node itself, and a text with halves of
characters is no other value. -/
def scalarAt? (nodes : Array Node) (id : Nat) : Option Key :=
  let node := nodeAt nodes id
  match node.kind, scalarContent? nodes (nodes.size + 1) id with
  | .timestamp, some (.scalar text) =>
    if node.content = .scalar text then (scalarValue? .timestamp text).map (⟨0, ·⟩) else none
  | .float, some (.scalar text) =>
    (scalarValue? .float text).map (⟨if isPlainNaN text then 0 else id + 1, ·⟩)
  | kind, some (.scalar text) => (scalarValue? kind text).map (⟨0, ·⟩)
  | .str, some (.halved codes) => some ⟨0, .halved codes⟩
  | .null, some (.halved _) => some ⟨0, .null⟩
  | _, _ => none

namespace Builder

/-- Puts a part at a place. -/
def put (id : Nat) (part : Part) (st : Builder) : Builder :=
  { st with parts := st.parts.setIfInBounds id (some part) }

/-- Begins what stands at a place, unless it was begun before. A scalar is built at once, a
collection is empty at first. -/
def start? (id : Nat) (st : Builder) : Option Builder :=
  match st.parts.getD id none with
  | some _ => some st
  | none =>
    match (nodeAt st.nodes id).kind with
    | .seq | .map | .set | .omap | .pairs =>
      some { st.put id (.list []) with begun := st.begun.push id }
    | _ => (scalarAt? st.nodes id).map fun key => st.put id (.scalar key)

/-- The key at a place that was begun. -/
def keyAt? (id : Nat) (st : Builder) : Option Key :=
  match st.parts.getD id none with
  | some (.scalar key) => some key
  | _ => none

/-- Begins the values of a mapping with its keys. -/
def startEntries? (id : Nat) (st : Builder) : Option (List (Key × Nat) × Builder) :=
  (mergeAt? id st.nodes).bind fun nodes =>
    (entriesAt? nodes id).bind fun entries =>
      entries.foldlM (fun (found, st) entry =>
        (start? entry.1 st).bind fun st =>
          (keyAt? entry.1 st).bind fun key =>
            (start? entry.2 st).map fun st => (key.set entry.2 found, st))
        ([], { st with nodes })

/-- The key and the value of a mapping of one entry. -/
def pairAt? (nodes : Array Node) (id : Nat) : Option (Nat × Nat) :=
  match entriesAt? nodes id with
  | some [entry] => some entry
  | _ => none

/-- Fills a collection that was begun. -/
def fill? (id : Nat) (st : Builder) : Option Builder :=
  let node := nodeAt st.nodes id
  match node.kind, node.content with
  | .seq, .sequence items =>
    (items.foldlM (fun st item => start? item st) st).map (put id (.list items))
  | .map, .mapping _ => (startEntries? id st).map fun (entries, st) => st.put id (.map entries)
  | .set, .mapping _ =>
    (startEntries? id st).map fun (entries, st) => st.put id (.set (entries.map Prod.fst))
  | .omap, .sequence items | .pairs, .sequence items =>
    (items.mapM (pairAt? st.nodes)).bind fun pairs =>
      (pairs.foldlM (fun st pair => (start? pair.1 st).bind (start? pair.2)) st).map
        (put id (.pairs pairs))
  | _, _ => none

/-- Fills the collections that were begun, from the given one on; each may begin others. -/
def fillFrom? (fuel next : Nat) (st : Builder) : Option Builder :=
  match fuel with
  | 0 => none
  | fuel + 1 =>
    match st.begun[next]? with
    | none => some st
    | some id => (st.fill? id).bind (fillFrom? fuel (next + 1))

/-- What is built at the places that the root leads to. -/
def build? (root : Nat) (nodes : Array Node) : Option (Array (Option Part)) :=
  let st : Builder := ⟨nodes, nodes.map fun _ => none, #[]⟩
  ((st.start? root).bind (fillFrom? (nodes.size + 2) 0)).map Builder.parts

end Builder

/-- The place of a part among the collections around it, counted from the innermost one. -/
def distance? (enclosing : List (Option Nat)) (id : Nat) : Option Nat :=
  (enclosing.findIdx? fun other => other = some id).map (· + 1)

/-- The value of what was built at a place inside the given collections; a collection without a
place of its own, such as a pair, counts as one around its parts. So does a copy of a collection: a
reference to its place inside of it leads to the collection itself. -/
def valueOf (parts : Array (Option Part)) (fuel : Nat) (enclosing : List (Option Nat))
    (copied : Bool) (id : Nat) : Option Value :=
  match fuel with
  | 0 => none
  | fuel + 1 =>
    match distance? enclosing id with
    | some distance => some (.enclosing distance)
    | none =>
      let inside := (if copied then none else some id) :: enclosing
      let value := valueOf parts fuel inside false
      match parts.getD id none with
      | none => none
      | some (.scalar key) => some (.scalar key.value)
      | some (.list items) => (items.mapM value).map .list
      | some (.set keys) => some (.set (keys.map Key.value))
      | some (.map entries) =>
        (entries.mapM fun entry => (value entry.2).map fun value => (entry.1.value, value)).map .map
      | some (.pairs items) =>
        let member := valueOf parts fuel (none :: inside) false
        let tuple (pair : Nat × Nat) : Option Value :=
          match member pair.1, member pair.2 with
          | some key, some value => some (.tuple [key, value])
          | _, _ => none
        (items.mapM tuple).map .list

/-- The value of the only document that a text holds, or a copy of it. -/
def document? (copied : Bool) (s : List Char) : Option Value :=
  (tokens? s).bind fun tokens =>
    (compose? tokens).bind fun (root, nodes) =>
      (Builder.build? root nodes).bind fun parts =>
        valueOf parts (2 * nodes.size + 4) [] copied root

end Runbook.Yaml
