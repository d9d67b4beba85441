import ClusterNav.Yaml.Node
import ClusterNav.Yaml.Scalar

/-!
# Values

What a document says once its scalars are resolved and its aliases are followed.  Not every document
has a value: keys of a mapping must differ, a scalar must fit its tag, numbers end at 64 bits, and
nesting and aliases have limits.
-/

namespace ClusterNav
namespace Yaml

/-- The value of a document. -/
inductive Value
  | null
  | bool (b : Bool)
  | int (n : Int)
  | float (x : Float)
  | text (s : String)
  | seq (items : List Value)
  | map (entries : List (Value × Value))
  | tagged (tag : String) (value : Value)
deriving Repr, Inhabited

namespace Value

mutual

/-- Are two values the same?  The order of the entries of a mapping does not matter. -/
def same : Value → Value → Bool
  | .null, .null => true
  | .bool a, .bool b => a == b
  | .int a, .int b => a == b
  | .float a, .float b => a == b || (a.isNaN && b.isNaN)
  | .text a, .text b => a == b
  | .seq as, .seq bs => sameAll as bs
  | .map as, .map bs => as.length == bs.length && sameEntries as bs
  | .tagged s a, .tagged t b => s == t && same a b
  | _, _ => false

def sameAll : List Value → List Value → Bool
  | [], [] => true
  | a :: as, b :: bs => same a b && sameAll as bs
  | _, _ => false

/-- Does each entry of the first mapping stand in the second? -/
def sameEntries : List (Value × Value) → List (Value × Value) → Bool
  | [], _ => true
  | (k, v) :: rest, bs => (bs.any fun e => same k e.1 && same v e.2) && sameEntries rest bs

end

end Value

/-- What a scalar stands for under its tag; nothing when it does not fit. -/
def resolveTagged? (tag : Option Tag) (plain : Bool) (s : String) : Option Plain :=
  match tag with
  | none => some (if plain then resolve s else .text)
  | some tag =>
    match tag.core? with
    | some .bool => (readBool? s).map .bool
    | some .int => (readInt? s.toList).map .int
    | some .float => (readFloat? s.toList).map .float
    | some .null => if isNull s then some .null else none
    | none => some (if tag.isLocal && plain then resolve s else .text)

/-- The most collections inside collections. -/
def deepest : Nat := 128

/-- Reading values, counting the aliases followed. -/
abbrev Follow := StateT Nat Option

def scalarValue? (tag : Option Tag) (plain : Bool) (s : String) : Option Value :=
  match resolveTagged? tag plain s with
  | none => none
  | some .null => some .null
  | some (.bool b) => some (.bool b)
  | some (.int n) => if -0x8000000000000000 ≤ n && n < 0x10000000000000000 then some (.int n) else none
  | some (.float x) => some (.float x)
  | some .text => some (.text s)

/-- A value under the tag of its node; only a local tag stays with it. -/
def underTag (tag : Option Tag) (value : Value) : Value :=
  match tag.bind Tag.localName? with
  | some name => .tagged name value
  | none => value

/-- The entries of a mapping, which must have different keys. -/
def distinctEntries (seen : List Value) : List (Value × Value) → Bool
  | [] => true
  | (k, _) :: rest => !(seen.any fun s => s.same k) && distinctEntries (k :: seen) rest

/-- The value of a node, inside at most `depth` more collections. -/
def valueOf (doc : Document) : Nat → Nat → Node → Follow Value
  | 0, _, _ => failure
  | fuel + 1, depth, node => do
    match node with
    | .alias _ id =>
      let jumps := (← get) + 1
      set jumps
      if doc.jumpLimit < jumps then failure
      match doc.resolve? id with
      | some target => valueOf doc fuel depth target
      | none => failure
    | .scalar _ tag plain s =>
      match scalarValue? tag plain s with
      | some value => return underTag tag value
      | none => failure
    | .seq _ tag items =>
      if depth = 0 then failure
      let values ← items.mapM (valueOf doc fuel (depth - 1))
      return underTag tag (.seq values)
    | .map _ tag entries =>
      if depth = 0 then failure
      let values ← entries.mapM fun e => do
        let key ← valueOf doc fuel (depth - 1) e.1
        let value ← valueOf doc fuel (depth - 1) e.2
        return (key, value)
      if !distinctEntries [] values then failure
      return underTag tag (.map values)

/-- The value of a document, if it has one. -/
def Document.value? (doc : Document) : Option Value :=
  match doc.root with
  | none => some .null
  | some root => ((valueOf doc (2 * deepest + 2) deepest root).run 0).map (·.1)

end Yaml
end ClusterNav
