import ClusterNav.ColumnStore
import ClusterNav.Text.Quoted
import ClusterNav.Yaml.Value

/-!
# Configuration

What a session starts with, read from a YAML text.  Every setting may be missing, and unknown
settings are ignored.  A text that is YAML but says something of the wrong type is told apart from
one that is no YAML at all; the first is explained by the place and the type found there.
-/

namespace ClusterNav

/-- The settings of a configuration. -/
structure Config where
  ns : Option String := none
  context : Option String := none
  kind : Option String := none
  /-- Column ids to show, by kind name. -/
  columns : Dict (List String) := .empty
deriving DecidableEq, Repr, Inhabited

/-- A step into a document. -/
inductive PathStep
  | key (name : String)
  | index (n : Nat)
  /-- An entry whose key is no scalar of its own. -/
  | unnamed
deriving DecidableEq, Repr

/-- What stands at a place, as messages name it. -/
inductive Found
  | unit
  | bool (b : Bool)
  | int (n : Int)
  | float (x : Float)
  | text (s : String)
  | sequence
  | map
deriving Repr

/-- What is wrong at a place. -/
inductive Mismatch
  | wrongType (found : Found) (expected : String)
  | repeated (setting : String)
deriving Repr

/-- Why a text is no configuration. -/
inductive ConfigError
  | mismatch (path : List PathStep) (cause : Mismatch) (mark : Yaml.Mark)
  | notYaml
deriving Repr

namespace Found

/-- A floating point number with at least one place. -/
def floatText (x : Float) : String :=
  if x.isNaN then "NaN"
  else if x.isInf then (if x < 0.0 then "-inf" else "inf")
  else Decimal.plainText x

/-- How a message names what it found. -/
def describe : Found → String
  | .unit => "unit value"
  | .bool b => s!"boolean \x60{b}\x60"
  | .int n => s!"integer \x60{n}\x60"
  | .float x => "floating point \x60" ++ floatText x ++ "\x60"
  | .text s => "string " ++ Text.quoted s
  | .sequence => "sequence"
  | .map => "map"

/-- What a node is, as messages name it. -/
def ofNode : Yaml.Node → Found
  | .seq _ _ _ => .sequence
  | .map _ _ _ => .map
  | .alias _ _ => .unit
  | .scalar _ tag plain s =>
    match Yaml.resolveTagged? tag plain s with
    | some .null => .unit
    | some (.bool b) => .bool b
    | some (.int n) => .int n
    | some (.float x) => .float x
    | some .text | none => .text s

end Found

namespace PathStep

def pathText (path : List PathStep) : String :=
  path.foldl (fun acc step =>
    let dotted := if acc.isEmpty then "" else acc ++ "."
    match step with
    | .key name => dotted ++ name
    | .unnamed => dotted ++ "?"
    | .index n => acc ++ s!"[{n}]") ""

end PathStep

namespace ConfigError

/-- The message of a mismatch: the path, what is wrong, and the place unless it is the start of the
text. -/
def message : ConfigError → String
  | .notYaml => "not a YAML document"
  | .mismatch path cause mark =>
    let place :=
      if mark.line = 0 ∧ mark.column = 0 then ""
      else s!" at line {mark.line + 1} column {mark.column + 1}"
    let text :=
      match cause with
      | .wrongType found expected => "invalid type: " ++ found.describe ++ ", expected " ++ expected
      | .repeated setting => s!"duplicate field \x60{setting}\x60"
    (if path.isEmpty then "" else PathStep.pathText path ++ ": ") ++ text ++ place

end ConfigError

namespace Config

/-! ## Reading nodes -/

/-- Reading settings, counting the aliases followed. -/
abbrev Reading := StateT Nat (Except ConfigError)

def wrongType {α : Type} (path : List PathStep) (node : Yaml.Node) (expected : String) :
    Reading α :=
  throw (.mismatch path (.wrongType (.ofNode node) expected) node.mark)

/-- The node an alias stands for, and any other node itself. -/
def follow (doc : Yaml.Document) : Yaml.Node → Reading Yaml.Node
  | .alias mark id => do
    let jumps := (← get) + 1
    set jumps
    if doc.jumpLimit < jumps then throw .notYaml
    return (doc.resolve? id).getD (.alias mark id)
  | node => return node

/-- Is the node an empty plain scalar, which stands for an empty collection? -/
def isVoid : Yaml.Node → Bool
  | .scalar _ _ plain s => plain && s.isEmpty
  | _ => false

/-- Reads a text; every scalar is one. -/
def readText (doc : Yaml.Document) (path : List PathStep) (expected : String)
    (node : Yaml.Node) : Reading String := do
  match ← follow doc node with
  | .scalar _ _ _ s => return s
  | other => wrongType path other expected

/-- Reads a text that may be missing: a plain scalar can stand for nothing. -/
def readText? (doc : Yaml.Document) (path : List PathStep) (node : Yaml.Node) :
    Reading (Option String) := do
  match ← follow doc node with
  | .scalar mark tag plain s =>
    let nothing := s.isEmpty || Yaml.isNull s
    if !plain then return some s
    else
      match tag with
      | none => return if nothing then none else some s
      | some tag =>
        if tag.core? = some .null then
          if Yaml.isNull s then return none
          else wrongType path (.scalar mark none false s) "null"
        else return some s
  | other => wrongType path other "a string"

/-- The step to the value of a key. -/
def stepOf : Yaml.Node → PathStep
  | .scalar _ _ _ s => .key s
  | _ => .unnamed

/-- Reads texts, numbered from an index on. -/
def readItems (doc : Yaml.Document) (path : List PathStep) (index : Nat) :
    List Yaml.Node → Reading (List String)
  | [] => return []
  | item :: rest => do
    let first ← readText doc (path ++ [.index index]) "a string" item
    let others ← readItems doc path (index + 1) rest
    return first :: others

def readTexts (doc : Yaml.Document) (path : List PathStep) (node : Yaml.Node) :
    Reading (List String) := do
  match ← follow doc node with
  | .seq _ _ items => readItems doc path 0 items
  | other => if isVoid other then return [] else wrongType path other "a sequence"

/-- Reads the columns of each kind; of one kind the last entry counts. -/
def readColumns (doc : Yaml.Document) (path : List PathStep) (node : Yaml.Node) :
    Reading (Dict (List String)) := do
  match ← follow doc node with
  | .map _ _ entries =>
    entries.foldlM (fun d e => do
      let kind ← readText doc path "a string" e.1
      let ids ← readTexts doc (path ++ [stepOf e.1]) e.2
      return d.insert kind ids) .empty
  | other => if isVoid other then return .empty else wrongType path other "a map"

/-- Settings read so far; one that was read, even as missing, may not come again. -/
structure Partial where
  ns : Option (Option String) := none
  context : Option (Option String) := none
  kind : Option (Option String) := none
  columns : Option (Dict (List String)) := none

def readSetting (doc : Yaml.Document) (mark : Yaml.Mark) (c : Partial)
    (entry : Yaml.Node × Yaml.Node) : Reading Partial := do
  let name ← readText doc [] "field identifier" entry.1
  let path := [stepOf entry.1]
  let again := ConfigError.mismatch [] (.repeated name) mark
  match name with
  | "namespace" =>
    if c.ns.isSome then throw again
    return { c with ns := some (← readText? doc path entry.2) }
  | "context" =>
    if c.context.isSome then throw again
    return { c with context := some (← readText? doc path entry.2) }
  | "kind" =>
    if c.kind.isSome then throw again
    return { c with kind := some (← readText? doc path entry.2) }
  | "columns" =>
    if c.columns.isSome then throw again
    return { c with columns := some (← readColumns doc path entry.2) }
  | _ => return c

def readDocument (doc : Yaml.Document) : Reading Config :=
  match doc.root with
  | none => return {}
  | some (.map mark _ entries) => do
    let c ← entries.foldlM (readSetting doc mark) {}
    return {
      ns := c.ns.join
      context := c.context.join
      kind := c.kind.join
      columns := c.columns.getD .empty }
  | some other => if isVoid other then return {} else wrongType [] other "struct PodjiConfig"

def ofDocument (doc : Yaml.Document) : Except ConfigError Config :=
  (readDocument doc).run' 0

/-- Reads a configuration from a text; a blank text sets nothing. -/
def parse (text : String) : Except ConfigError Config :=
  if (Text.trim text).isEmpty then .ok {}
  else
    match Yaml.Document.ofText text with
    | .error _ => .error .notYaml
    | .ok doc =>
      match ofDocument doc with
      | .ok config => .ok config
      | .error e => if doc.value?.isSome then .error e else .error .notYaml

/-- Stores the configured columns of every kind. -/
def seedColumns (config : Config) (store : ColumnStore) : ColumnStore :=
  config.columns.entries.foldl (fun s e => s.set e.1 e.2) store

/-! ## Finding the file -/

/-- The names a configuration file may have, the first that exists being read. -/
def fileNames : List String := ["podji.yaml", "podji.yml", ".podji.yaml"]

/-- What stands at a path: a file with its text, or something that cannot be read. -/
inductive FileEntry
  | text (content : String)
  | unreadable
deriving Repr

/-- Why a configuration file gives no configuration. -/
inductive LoadError
  | unreadable (path : String)
  | unparsable (path : String)
deriving DecidableEq, Repr

/-- The message of a failure to load. -/
def LoadError.message : LoadError → String
  | .unreadable path => s!"failed to read config {path}"
  | .unparsable path => s!"failed to parse config {path}"

/-- The path of a name in a directory. -/
def pathIn (directory name : String) : String :=
  directory ++ "/" ++ name

/-- The path to read: the one asked for, or the first in the directory where something stands. -/
def pathToRead? (explicit : Option String) (directory : String) (files : String → Option FileEntry) :
    Option String :=
  match explicit with
  | some path => some path
  | none => (fileNames.map (pathIn directory)).find? fun path => (files path).isSome

/-- Loads a configuration; without a file it sets nothing. -/
def load (explicit : Option String) (directory : String) (files : String → Option FileEntry) :
    Except LoadError Config :=
  match pathToRead? explicit directory files with
  | none => .ok {}
  | some path =>
    match files path with
    | some (.text content) =>
      match parse content with
      | .ok config => .ok config
      | .error _ => .error (.unparsable path)
    | some .unreadable | none => .error (.unreadable path)

end Config
end ClusterNav
