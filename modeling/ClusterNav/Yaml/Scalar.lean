import ClusterNav.Decimal.Text

/-!
# Plain scalars

What an unquoted YAML scalar stands for: nothing, a truth value, a whole number, a floating point
number, or its own text.  Whole numbers are decimal, hexadecimal, octal or binary; digits after a
leading zero are text.
-/

namespace ClusterNav
namespace Yaml

/-- What a plain scalar stands for. -/
inductive Plain
  | null
  | bool (b : Bool)
  | int (n : Int)
  | float (x : Float)
  | text
deriving Repr

/-- The words for nothing. -/
def isNull (s : String) : Bool :=
  ["null", "Null", "NULL", "~"].contains s

/-- The words for truth values. -/
def readBool? (s : String) : Option Bool :=
  if ["true", "True", "TRUE"].contains s then some true
  else if ["false", "False", "FALSE"].contains s then some false
  else none

/-- The value of a digit in a base. -/
def digitValue? (base : Nat) (c : Char) : Option Nat :=
  let value :=
    if c.isDigit then c.toNat - 48
    else if 'a' ≤ c ∧ c ≤ 'f' then c.toNat - 87
    else if 'A' ≤ c ∧ c ≤ 'F' then c.toNat - 55
    else base
  if value < base then some value else none

/-- The value of digits in a base; there is at least one digit. -/
def readDigits? (base : Nat) (cs : List Char) : Option Nat :=
  if cs.isEmpty then none
  else cs.foldlM (fun n c => (digitValue? base c).map (base * n + ·)) 0

/-- The base that two characters announce, and the digits after them. -/
def splitBase : List Char → Nat × List Char
  | '0' :: 'x' :: rest => (16, rest)
  | '0' :: 'o' :: rest => (8, rest)
  | '0' :: 'b' :: rest => (2, rest)
  | cs => (10, cs)

/-- Digits after a leading zero, which are not a number. -/
def isZeroLed (cs : List Char) : Bool :=
  let body := match cs with
    | '-' :: rest | '+' :: rest => rest
    | _ => cs
  decide (1 < body.length) && body.head? == some '0' && body.all Char.isDigit

/-- Whole numbers end at 128 bits. -/
def inRange (n : Int) : Bool :=
  -0x80000000000000000000000000000000 ≤ n && n < 0x100000000000000000000000000000000

/-- A whole number without its sign. -/
def readMagnitude? (cs : List Char) : Option Nat :=
  let (base, digits) := splitBase cs
  readDigits? base digits

def readInt? (cs : List Char) : Option Int :=
  if isZeroLed cs then none
  else
    let number : Option Int :=
      match cs with
      | '-' :: rest => (readMagnitude? rest).map fun n => -(n : Int)
      | '+' :: rest => (readMagnitude? rest).map Int.ofNat
      | _ => (readMagnitude? cs).map Int.ofNat
    number.filter inRange

/-- Reads a floating point number: a word with a dot, or a finite decimal. -/
def readFloat? (cs : List Char) : Option Float :=
  let s := String.ofList cs
  if [".inf", ".Inf", ".INF", "+.inf", "+.Inf", "+.INF"].contains s then some (1.0 / 0.0)
  else if ["-.inf", "-.Inf", "-.INF"].contains s then some (-(1.0 / 0.0))
  else if [".nan", ".NaN", ".NAN"].contains s then some (0.0 / 0.0)
  else
    let unsigned :=
      match cs with
      | '+' :: rest =>
        if rest.head? == some '+' || rest.head? == some '-' then none else some rest
      | _ => some cs
    (unsigned.bind Decimal.read?).bind fun reading =>
      let x := Decimal.toFloat reading
      if x.isFinite then some x else none

/-- What a plain scalar stands for. -/
def resolve (s : String) : Plain :=
  let cs := s.toList
  if s.isEmpty || isNull s then .null
  else
    match readBool? s with
    | some b => .bool b
    | none =>
      match readInt? cs with
      | some n => .int n
      | none =>
        if isZeroLed cs then .text
        else
          match readFloat? cs with
          | some x => .float x
          | none => .text

end Yaml
end ClusterNav
