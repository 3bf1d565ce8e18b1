import Runbook.Yaml.Scalar
import Runbook.Yaml.Token

/-!
# Nodes of a markup document

The nodes of a document stand in a table and refer to each other by their places in it, since an
alias can refer to a node around it. `compose?` reads tokens by the grammar of documents: block
and flow collections, empty nodes where the grammar allows them, tags and anchors in either order.
-/

namespace Runbook.Yaml

/-- What a node holds; collections refer to nodes by their places. A scalar in which halves of
characters stand alone is given by its code points. -/
inductive Content where
  | scalar (text : List Char)
  | halved (codes : List Nat)
  | sequence (items : List Nat)
  | mapping (entries : List (Nat × Nat))
  deriving DecidableEq, Repr, Inhabited

/-- A node with its kind. -/
structure Node where
  kind : Kind
  content : Content
  deriving DecidableEq, Repr, Inhabited

/-- The state of composing: the tokens to come, how many more collections may be inside of each
other, the nodes so far, the named nodes, and what the handles of tags stand for. -/
structure Composer where
  tokens : List Token
  room : Nat
  nodes : Array Node
  anchors : List (List Char × Nat)
  handles : List (List Char × List Char)

/-- What may stand in front of a node. -/
structure Properties where
  anchor : Option (List Char)
  tag : Option (List Char)

namespace Composer

/-- Goes on with other tokens. -/
def goto (tokens : List Token) (st : Composer) : Composer := { st with tokens }

/-- Adds a node. -/
def add (node : Node) (st : Composer) : Nat × Composer :=
  (st.nodes.size, { st with nodes := st.nodes.push node })

/-- Names a node. -/
def name (anchor : Option (List Char)) (id : Nat) (st : Composer) : Composer :=
  match anchor with
  | some text => { st with anchors := (text, id) :: st.anchors }
  | none => st

/-- Sets what a node holds. -/
def fill (id : Nat) (kind : Kind) (content : Content) (st : Composer) : Composer :=
  { st with nodes := st.nodes.setIfInBounds id ⟨kind, content⟩ }

/-- Composes what is inside of a collection, if there is room for another one. -/
def inside {α : Type} (st : Composer) (read : Composer → Option (α × Composer)) :
    Option (α × Composer) :=
  match st.room with
  | 0 => none
  | room + 1 => (read { st with room }).map fun (a, inner) => (a, { inner with room := st.room })

/-- Adds an empty plain scalar. -/
def addEmpty (st : Composer) : Nat × Composer := st.add ⟨implicitKind [], .scalar []⟩

/-- The text of a tag with what its handle stands for. -/
def expandTag? (handle : Option (List Char)) (suffix : List Char) (st : Composer) :
    Option (List Char) :=
  match handle with
  | none => some suffix
  | some handle => (st.handles.lookup handle).map (· ++ suffix)

/-- Reads the anchor and the tag in front of a node. No name may be given twice. -/
def properties? (st : Composer) : Option (Properties × Composer) :=
  let build (anchor : Option (List Char)) (tag : Option (Option (List Char) × List Char))
      (rest : List Token) : Option (Properties × Composer) :=
    if anchor.any fun name => (st.anchors.lookup name).isSome then none
    else
      match tag with
      | none => some (⟨anchor, none⟩, st.goto rest)
      | some (handle, suffix) =>
        (st.expandTag? handle suffix).map fun text => (⟨anchor, some text⟩, st.goto rest)
  match st.tokens with
  | .anchor name :: .tag handle suffix :: rest => build (some name) (some (handle, suffix)) rest
  | .tag handle suffix :: .anchor name :: rest => build (some name) (some (handle, suffix)) rest
  | .anchor name :: rest => build (some name) none rest
  | .tag handle suffix :: rest => build none (some (handle, suffix)) rest
  | rest => build none none rest

end Composer

/-- The tag that leaves the kind of a node open. -/
def openTag : List Char := ['!']

/-- The kind of a node with the given tag, where its text does not decide. -/
def taggedKind (tag : Option (List Char)) (default : Kind) : Kind :=
  match tag with
  | none => default
  | some text => if text = openTag then default else .ofTag text

/-- The kind of a scalar with the given tag. -/
def scalarKind (tag : Option (List Char)) (plain : Bool) (text : List Char) : Kind :=
  match tag with
  | none => if plain then implicitKind text else .str
  | some name => if name = openTag then implicitKind text else .ofTag name

/-- Whether an entry of a block collection ends before the token without a node. -/
def endsBlockEntry : Token → Bool
  | .blockEntry | .blockEnd => true
  | _ => false

/-- Whether an entry of a sequence without indentation ends before the token without a node. -/
def endsIndentlessEntry : Token → Bool
  | .blockEntry | .key | .value | .blockEnd => true
  | _ => false

/-- Whether a key or a value of a block mapping ends before the token without a node. -/
def endsBlockPart : Token → Bool
  | .key | .value | .blockEnd => true
  | _ => false

/-- Whether the value of a pair in a flow collection ends before the token without a node. -/
def endsFlowValue : Token → Bool
  | .flowEntry | .flowSequenceEnd | .flowMappingEnd => true
  | _ => false

/-- Whether the key of a pair in a flow collection ends before the token without a node. -/
def endsFlowKey : Token → Bool
  | .value => true
  | token => endsFlowValue token

mutual

/-- Composes a node. A block collection is allowed where the first flag says so, and a sequence
without indentation where the second one does. -/
def composeNode (fuel : Nat) (block indentless : Bool) (st : Composer) : Option (Nat × Composer) :=
  match fuel with
  | 0 => none
  | fuel + 1 =>
    match st.tokens with
    | .alias name :: rest => (st.anchors.lookup name).map fun id => (id, st.goto rest)
    | _ =>
      match st.properties? with
      | none => none
      | some (props, st) =>
        let opened (kind : Kind) (st : Composer) : Nat × Composer :=
          let (id, st) := st.add ⟨kind, .scalar []⟩
          (id, st.name props.anchor id)
        let sequence (read : Composer → Option (List Nat × Composer)) (st : Composer) :
            Option (Nat × Composer) :=
          let kind := taggedKind props.tag .seq
          let (id, st) := opened kind st
          (st.inside read).map fun (items, st) => (id, st.fill id kind (.sequence items))
        let mapping (read : Composer → Option (List (Nat × Nat) × Composer)) (st : Composer) :
            Option (Nat × Composer) :=
          let kind := taggedKind props.tag .map
          let (id, st) := opened kind st
          (st.inside read).map fun (entries, st) => (id, st.fill id kind (.mapping entries))
        let leaf (kind : Kind) (content : Content) (st : Composer) : Nat × Composer :=
          let (id, st) := st.add ⟨kind, content⟩
          (id, st.name props.anchor id)
        let empty (st : Composer) : Option (Nat × Composer) :=
          if props.anchor.isSome || props.tag.isSome then
            some (leaf (scalarKind props.tag true []) (.scalar []) st)
          else none
        match st.tokens with
        | .blockEntry :: _ =>
          if indentless then sequence (composeIndentless fuel) st
          else empty st
        | .scalar text plain :: rest =>
          some (leaf (scalarKind props.tag plain text) (.scalar text) (st.goto rest))
        | .halved codes :: rest =>
          some (leaf (taggedKind props.tag .str) (.halved codes) (st.goto rest))
        | .flowSequenceStart :: rest => sequence (composeFlowItems fuel true) (st.goto rest)
        | .flowMappingStart :: rest => mapping (composeFlowEntries fuel true) (st.goto rest)
        | .blockSequenceStart :: rest =>
          if block then sequence (composeBlockItems fuel) (st.goto rest)
          else empty st
        | .blockMappingStart :: rest =>
          if block then mapping (composeBlockEntries fuel) (st.goto rest)
          else empty st
        | _ => empty st

/-- Composes a node unless its place ends at once, where an empty scalar stands. -/
def composeOptional (fuel : Nat) (ends : Token → Bool) (block indentless : Bool) (st : Composer) :
    Option (Nat × Composer) :=
  match fuel with
  | 0 => none
  | fuel + 1 =>
    match st.tokens with
    | token :: _ => if ends token then some st.addEmpty else composeNode fuel block indentless st
    | [] => none

/-- Composes the items of a block sequence. -/
def composeBlockItems (fuel : Nat) (st : Composer) : Option (List Nat × Composer) :=
  match fuel with
  | 0 => none
  | fuel + 1 =>
    match st.tokens with
    | .blockEntry :: rest =>
      match composeOptional fuel endsBlockEntry true false (st.goto rest) with
      | none => none
      | some (id, st) => (composeBlockItems fuel st).map fun (ids, st) => (id :: ids, st)
    | .blockEnd :: rest => some ([], st.goto rest)
    | _ => none

/-- Composes the items of a sequence without an indentation of its own. -/
def composeIndentless (fuel : Nat) (st : Composer) : Option (List Nat × Composer) :=
  match fuel with
  | 0 => none
  | fuel + 1 =>
    match st.tokens with
    | .blockEntry :: rest =>
      match composeOptional fuel endsIndentlessEntry true false (st.goto rest) with
      | none => none
      | some (id, st) => (composeIndentless fuel st).map fun (ids, st) => (id :: ids, st)
    | _ => some ([], st)

/-- Composes the entries of a block mapping. -/
def composeBlockEntries (fuel : Nat) (st : Composer) : Option (List (Nat × Nat) × Composer) :=
  match fuel with
  | 0 => none
  | fuel + 1 =>
    match st.tokens with
    | .key :: rest =>
      match composeOptional fuel endsBlockPart true true (st.goto rest) with
      | none => none
      | some (key, st) => composeBlockValue fuel key st
    | .blockEnd :: rest => some ([], st.goto rest)
    | _ => none

/-- Composes the value of an entry whose key was read, and the entries behind it. -/
def composeBlockValue (fuel : Nat) (key : Nat) (st : Composer) :
    Option (List (Nat × Nat) × Composer) :=
  match fuel with
  | 0 => none
  | fuel + 1 =>
    let value : Option (Nat × Composer) :=
      match st.tokens with
      | .value :: rest => composeOptional fuel endsBlockPart true true (st.goto rest)
      | _ => some st.addEmpty
    match value with
    | none => none
    | some (id, st) => (composeBlockEntries fuel st).map fun (ids, st) => ((key, id) :: ids, st)

/-- Composes the items of a flow sequence; a pair is a mapping of one entry. -/
def composeFlowItems (fuel : Nat) (first : Bool) (st : Composer) : Option (List Nat × Composer) :=
  match fuel with
  | 0 => none
  | fuel + 1 =>
    let divided : Option Composer :=
      match st.tokens with
      | .flowSequenceEnd :: _ => some st
      | .flowEntry :: rest => if first then some st else some (st.goto rest)
      | _ => if first then some st else none
    match divided with
    | none => none
    | some st =>
      match st.tokens with
      | .flowSequenceEnd :: rest => some ([], st.goto rest)
      | .key :: rest =>
        let (id, st) := (st.goto rest).add ⟨.map, .scalar []⟩
        let pair := st.inside fun st =>
          (composeOptional fuel endsFlowKey false false st).bind fun (key, st) =>
            (composeFlowValue fuel st).map fun (value, st) => ((key, value), st)
        match pair with
        | none => none
        | some (entry, st) =>
          (composeFlowItems fuel false (st.fill id .map (.mapping [entry]))).map
            fun (ids, st) => (id :: ids, st)
      | _ =>
        match composeNode fuel false false st with
        | none => none
        | some (id, st) => (composeFlowItems fuel false st).map fun (ids, st) => (id :: ids, st)

/-- Composes the value of a pair in a flow collection; it may be absent. -/
def composeFlowValue (fuel : Nat) (st : Composer) : Option (Nat × Composer) :=
  match fuel with
  | 0 => none
  | fuel + 1 =>
    match st.tokens with
    | .value :: rest => composeOptional fuel endsFlowValue false false (st.goto rest)
    | _ => some st.addEmpty

/-- Composes the entries of a flow mapping; an entry without a mark is a key alone. -/
def composeFlowEntries (fuel : Nat) (first : Bool) (st : Composer) :
    Option (List (Nat × Nat) × Composer) :=
  match fuel with
  | 0 => none
  | fuel + 1 =>
    let divided : Option Composer :=
      match st.tokens with
      | .flowMappingEnd :: _ => some st
      | .flowEntry :: rest => if first then some st else some (st.goto rest)
      | _ => if first then some st else none
    match divided with
    | none => none
    | some st =>
      match st.tokens with
      | .flowMappingEnd :: rest => some ([], st.goto rest)
      | .key :: rest =>
        match composeOptional fuel endsFlowKey false false (st.goto rest) with
        | none => none
        | some (key, st) =>
          match composeFlowValue fuel st with
          | none => none
          | some (value, st) =>
            (composeFlowEntries fuel false st).map fun (ids, st) => ((key, value) :: ids, st)
      | _ =>
        match composeNode fuel false false st with
        | none => none
        | some (key, st) =>
          let (value, st) := st.addEmpty
          (composeFlowEntries fuel false st).map fun (ids, st) => ((key, value) :: ids, st)

end

/-- What the handles stand for in every document. -/
def defaultHandles : List (List Char × List Char) := [(['!'], ['!']), (['!', '!'], Kind.schema)]

/-- Reads the directives in front of a document: at most one version, which is a first one, and no
handle twice. -/
def directives? (versioned : Bool) (handles : List (List Char × List Char)) :
    List Token → Option (List (List Char × List Char) × List Token)
  | .versionDirective major :: rest =>
    if versioned || major != 1 then none else directives? true handles rest
  | .tagDirective handle tagPrefix :: rest =>
    if (handles.lookup handle).isSome then none
    else directives? versioned ((handle, tagPrefix) :: handles) rest
  | .otherDirective :: rest => directives? versioned handles rest
  | rest => some (handles ++ defaultHandles, rest)

/-- Whether a document without content ends before the token. -/
def endsDocument : Token → Bool
  | .versionDirective _ | .tagDirective _ _ | .otherDirective | .documentStart | .documentEnd
  | .streamEnd => true
  | _ => false

/-- Whether only ends of documents are left. -/
def onlyEnds (tokens : List Token) : Bool :=
  tokens.all fun token => token == .documentEnd || token == .streamEnd

/-- The most collections that may be inside of each other. -/
def maxNesting : Nat := 490

/-- Composes the only document in the tokens: the place of its root, and all its nodes. -/
def compose? (tokens : List Token) : Option (Nat × Array Node) :=
  let fuel := 4 * tokens.length + 8
  let root : Option (Nat × Composer) :=
    match tokens with
    | .streamEnd :: _ => none
    | token :: _ =>
      if endsDocument token && token != .documentEnd then
        match directives? false [] tokens with
        | some (handles, .documentStart :: rest) =>
          composeOptional fuel endsDocument true false ⟨rest, maxNesting, #[], [], handles⟩
        | _ => none
      else composeNode fuel true false ⟨tokens, maxNesting, #[], [], defaultHandles⟩
    | [] => none
  root.bind fun (id, st) => if onlyEnds st.tokens then some (id, st.nodes) else none

end Runbook.Yaml
