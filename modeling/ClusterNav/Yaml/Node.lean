import ClusterNav.Dict
import ClusterNav.Yaml.TokenStream

/-!
# Nodes

The tree that tokens describe, each node with the place where it starts.  An alias is a leaf that
names an anchor by number; the numbers count the distinct anchor names before an anchor, and the last
anchor of a number is the one it stands for.
-/

namespace ClusterNav
namespace Yaml

/-- A node of a document. -/
inductive Node
  | scalar (mark : Mark) (tag : Option Tag) (plain : Bool) (text : String)
  | seq (mark : Mark) (tag : Option Tag) (items : List Node)
  | map (mark : Mark) (tag : Option Tag) (entries : List (Node × Node))
  | alias (mark : Mark) (id : Nat)
deriving Repr, Inhabited

/-- Where a node starts. -/
def Node.mark : Node → Mark
  | .scalar mark _ _ _ | .seq mark _ _ | .map mark _ _ | .alias mark _ => mark

/-- A node with an anchor. -/
structure Anchored where
  id : Nat
  /-- Place of the anchor among all anchors. -/
  order : Nat
  node : Node
deriving Repr, Inhabited

/-- A document: its root, unless the text holds none, and its anchored nodes. -/
structure Document where
  root : Option Node
  anchored : List Anchored
  /-- Number of nodes and ends of collections. -/
  size : Nat
deriving Repr, Inhabited

/-- The node that an alias stands for. -/
def Document.resolve? (d : Document) (id : Nat) : Option Node :=
  (d.anchored.foldl (fun (best : Option Anchored) a =>
    if a.id = id && best.all fun b => b.order < a.order then some a else best) none).map (·.node)

/-- How many aliases may be followed in reading a document, which keeps aliases of aliases from growing
without bound. -/
def Document.jumpLimit (d : Document) : Nat :=
  100 * d.size

/-- The tokens still to be read and what was found so far. -/
structure NodeReader where
  tokens : List Token
  /-- Expansions of tag handles. -/
  handles : Dict Tag
  /-- Numbers of anchor names. -/
  names : Dict Nat := .empty
  anchored : List Anchored := []
  anchors : Nat := 0
  size : Nat := 0
deriving Inhabited

/-- Reading nodes from tokens. -/
abbrev Read := StateT NodeReader (Except Fault)

namespace Read

/-- Why the tokens are no document. -/
def fail {α : Type} (fault : Fault) : Read α := fun _ => .error fault

/-- The next token; after the last there is only the end. -/
def peek : Read Token := do
  return (← get).tokens.headD ⟨.streamEnd, {}⟩

def drop : Read Unit :=
  modify fun r => { r with tokens := r.tokens.tail }

/-- Counts a node or the end of a collection. -/
def count : Read Unit :=
  modify fun r => { r with size := r.size + 1 }

/-- Numbers an anchor. -/
def number (name : String) : Read (Nat × Nat) := do
  let r ← get
  let id := r.names.entries.length
  set { r with names := r.names.insert name id, anchors := r.anchors + 1 }
  return (id, r.anchors)

def emptyScalar (mark : Mark) : Read Node := do
  count
  return .scalar mark none true ""

/-- The full tag of a handle and a suffix. -/
def expand (handle : String) (suffix : Tag) : Read Tag := do
  if handle.isEmpty then return suffix
  match (← get).handles.get? handle with
  | some expansion => return expansion.append suffix
  | none => fail .unknownHandle

/-- What stands before a node. -/
structure Properties where
  anchor : Option String := none
  tag : Option Tag := none

/-- Reads an anchor and a tag, in either order. -/
def properties : Read Properties := do
  match (← peek).kind with
  | .anchor name =>
    drop
    match (← peek).kind with
    | .tag handle suffix => drop; return { anchor := some name, tag := some (← expand handle suffix) }
    | _ => return { anchor := some name }
  | .tag handle suffix =>
    drop
    match (← peek).kind with
    | .anchor name => drop; return { anchor := some name, tag := some (← expand handle suffix) }
    | _ => return { tag := some (← expand handle suffix) }
  | _ => return {}

/-- Keeps a node under its anchor. -/
def keep (anchor : Option (Nat × Nat)) (node : Node) : Read Node := do
  match anchor with
  | some (id, order) => modify fun r => { r with anchored := r.anchored ++ [⟨id, order, node⟩] }
  | none => pure ()
  return node

/-- Does a block entry or item end without a node here? -/
def endsBlockNode : TokenKind → Bool
  | .key | .value | .blockEnd => true
  | _ => false

/-- Does a flow entry end without a node here? -/
def endsFlowNode (closing : TokenKind) (kind : TokenKind) : Bool :=
  kind == .flowItem || kind == closing

mutual

/-- Reads a node.  In a block context block collections may start; as the value of a key a sequence
may stand at the indentation of the key. -/
def node (block unindented : Bool) : Nat → Read Node
  | 0 => fail .unexpectedToken
  | fuel + 1 => do
    let start ← peek
    match start.kind with
    | .alias name =>
      drop
      count
      match (← get).names.get? name with
      | some id => return .alias start.mark id
      | none => fail .unknownAnchor
    | _ =>
      let props ← properties
      let anchor ← match props.anchor with
        | some name => some <$> number name
        | none => pure none
      let token ← peek
      let mark := start.mark
      count
      match token.kind with
      | .scalar text plain =>
        drop
        let tag := if props.tag = some .nonSpecific then none else props.tag
        keep anchor (.scalar mark tag plain text)
      | .flowSeqStart => drop; keep anchor (.seq mark props.tag (← flowItems true fuel))
      | .flowMapStart => drop; keep anchor (.map mark props.tag (← flowEntries true fuel))
      | kind =>
        if unindented && kind == .blockItem then
          keep anchor (.seq mark props.tag (← plainItems fuel))
        else if block && kind == .blockSeqStart then do
          drop
          keep anchor (.seq mark props.tag (← blockItems fuel))
        else if block && kind == .blockMapStart then do
          drop
          keep anchor (.map mark props.tag (← blockEntries fuel))
        else if props.anchor.isSome || props.tag.isSome then
          keep anchor (.scalar mark props.tag true "")
        else fail .unexpectedToken

/-- Reads the items of a block sequence up to its end. -/
def blockItems : Nat → Read (List Node)
  | 0 => fail .unexpectedToken
  | fuel + 1 => do
    let token ← peek
    match token.kind with
    | .blockItem =>
      drop
      let next ← peek
      let item ←
        if next.kind == .blockItem || next.kind == .blockEnd then emptyScalar next.mark
        else node true false fuel
      return item :: (← blockItems fuel)
    | .blockEnd => drop; count; return []
    | _ => fail .unexpectedToken

/-- Reads the items of a sequence at the indentation of its key. -/
def plainItems : Nat → Read (List Node)
  | 0 => fail .unexpectedToken
  | fuel + 1 => do
    let token ← peek
    match token.kind with
    | .blockItem =>
      drop
      let next ← peek
      let item ←
        if next.kind == .blockItem || endsBlockNode next.kind then emptyScalar next.mark
        else node true false fuel
      return item :: (← plainItems fuel)
    | _ => count; return []

/-- Reads the entries of a block mapping up to its end. -/
def blockEntries : Nat → Read (List (Node × Node))
  | 0 => fail .unexpectedToken
  | fuel + 1 => do
    let token ← peek
    match token.kind with
    | .key =>
      drop
      let next ← peek
      let key ← if endsBlockNode next.kind then emptyScalar next.mark else node true true fuel
      let value ← blockValue fuel
      return (key, value) :: (← blockEntries fuel)
    | .blockEnd => drop; count; return []
    | _ => fail .unexpectedToken

/-- Reads the value of an entry of a block mapping. -/
def blockValue : Nat → Read Node
  | 0 => fail .unexpectedToken
  | fuel + 1 => do
    let token ← peek
    if token.kind == .value then
      drop
      let next ← peek
      if endsBlockNode next.kind then emptyScalar next.mark else node true true fuel
    else emptyScalar token.mark

/-- Reads the items of a flow sequence up to its end. -/
def flowItems (first : Bool) : Nat → Read (List Node)
  | 0 => fail .unexpectedToken
  | fuel + 1 => do
    if (← peek).kind == .flowSeqEnd then
      drop
      count
      return []
    if !first then
      if (← peek).kind == .flowItem then drop else fail .unexpectedToken
    let token ← peek
    match token.kind with
    | .flowSeqEnd => drop; count; return []
    | .key =>
      drop
      count
      let entry ← pair fuel
      count
      return .map token.mark none [entry] :: (← flowItems false fuel)
    | _ => return (← node false false fuel) :: (← flowItems false fuel)

/-- Reads a mapping of one entry inside a flow sequence. -/
def pair : Nat → Read (Node × Node)
  | 0 => fail .unexpectedToken
  | fuel + 1 => do
    let token ← peek
    let key ←
      if token.kind == .value || endsFlowNode .flowSeqEnd token.kind then do
        drop
        emptyScalar token.mark
      else node false false fuel
    let token ← peek
    if token.kind == .value then
      drop
      let next ← peek
      if endsFlowNode .flowSeqEnd next.kind then return (key, ← emptyScalar next.mark)
      else return (key, ← node false false fuel)
    else return (key, ← emptyScalar token.mark)

/-- Reads the entries of a flow mapping up to its end. -/
def flowEntries (first : Bool) : Nat → Read (List (Node × Node))
  | 0 => fail .unexpectedToken
  | fuel + 1 => do
    if (← peek).kind == .flowMapEnd then
      drop
      count
      return []
    if !first then
      if (← peek).kind == .flowItem then drop else fail .unexpectedToken
    let token ← peek
    match token.kind with
    | .flowMapEnd => drop; count; return []
    | .key =>
      drop
      let next ← peek
      let key ←
        if next.kind == .value || endsFlowNode .flowMapEnd next.kind then emptyScalar next.mark
        else node false false fuel
      let value ← flowValue fuel
      return (key, value) :: (← flowEntries false fuel)
    | _ =>
      let key ← node false false fuel
      let value ← emptyScalar (← peek).mark
      return (key, value) :: (← flowEntries false fuel)

/-- Reads the value of an entry of a flow mapping. -/
def flowValue : Nat → Read Node
  | 0 => fail .unexpectedToken
  | fuel + 1 => do
    let token ← peek
    if token.kind == .value then
      drop
      let next ← peek
      if endsFlowNode .flowMapEnd next.kind then emptyScalar next.mark
      else node false false fuel
    else emptyScalar token.mark

end

/-- The handles every document knows. -/
def standardHandles : Dict Tag :=
  .ofList [("!", .nonSpecific), ("!!", .standardStart)]

def directives (version : Bool) (given : List String) : Nat → Read Unit
  | 0 => fail .badDirective
  | fuel + 1 => do
    match (← peek).kind with
    | .version major minor =>
      if version || major != 1 || (minor != 1 && minor != 2) then fail .badDirective
      drop
      directives true given fuel
    | .tagHandle handle expansion =>
      if given.contains handle then fail .badDirective
      drop
      modify fun r => { r with handles := r.handles.insert handle expansion }
      directives version (handle :: given) fuel
    | _ => return

/-- Does a document end before any node here? -/
def endsDocument : TokenKind → Bool
  | .version _ _ | .tagHandle _ _ | .documentStart | .documentEnd | .streamEnd => true
  | _ => false

/-- Drops the markers between documents. -/
def dropEndMarkers : Nat → Read Unit
  | 0 => return
  | fuel + 1 => do
    if (← peek).kind == .documentEnd then
      drop
      dropEndMarkers fuel

/-- Reads the root of the only document; a text of no tokens has none. -/
def onlyRoot (fuel : Nat) : Read (Option Node) := do
  match (← peek).kind with
  | .streamEnd => return none
  | .version _ _ | .tagHandle _ _ | .documentStart =>
    directives false [] fuel
    if (← peek).kind != .documentStart then fail .unexpectedToken
    drop
    let token ← peek
    let root ← if endsDocument token.kind then emptyScalar token.mark else node true false fuel
    dropEndMarkers fuel
    if (← peek).kind != .streamEnd then fail .severalDocuments
    return some root
  | _ =>
    let root ← node true false fuel
    dropEndMarkers fuel
    if (← peek).kind != .streamEnd then fail .severalDocuments
    return some root

end Read

/-- The only document of a text. -/
def Document.ofText (text : String) : Except Fault Document := do
  let tokens ← tokens text
  let (root, r) ←
    (Read.onlyRoot (4 * tokens.length + 8)).run
      { tokens := tokens, handles := Read.standardHandles }
  return { root := root, anchored := r.anchored, size := r.size }

end Yaml
end ClusterNav
