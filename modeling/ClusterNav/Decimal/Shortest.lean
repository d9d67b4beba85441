/-!
# The shortest decimal of a binary number

Among the decimals that read back as a given binary floating point number, the one with the fewest
digits, and of those the nearest.  The search is exact: the number is the fraction `m · 2^q`, the
decimals that read back fill the interval around it, and each decimal grid is tested at the two
points next to the number.
-/

namespace ClusterNav

/-- The decimal `digits · 10 ^ exponent`. -/
structure Decimal where
  digits : Nat
  exponent : Int
deriving DecidableEq, Repr

namespace Decimal

/-- Number of decimal digits of a natural number; zero has one. -/
def digitCount (n : Nat) : Nat :=
  (Nat.toDigits 10 n).length

/-- The same value without zeros at the end of its digits. -/
def dropZeros (fuel : Nat) (d : Decimal) : Decimal :=
  match fuel with
  | 0 => d
  | fuel + 1 =>
    if d.digits ≠ 0 ∧ d.digits % 10 = 0 then dropZeros fuel ⟨d.digits / 10, d.exponent + 1⟩ else d

/-- A positive binary number with the ends of the interval that rounds to it, all over `den`. -/
structure Interval where
  value : Nat
  low : Nat
  high : Nat
  den : Nat
  /-- The ends belong to the interval. -/
  closed : Bool

/-- The interval of `m · 2^q`; `narrow` marks the least number of its binade. -/
def Interval.ofBinary (m : Nat) (q : Int) (narrow : Bool) : Interval :=
  let up := Nat.pow 2 q.toNat
  { value := 4 * m * up
    low := (4 * m - if narrow then 1 else 2) * up
    high := (4 * m + 2) * up
    den := 4 * Nat.pow 2 (-q).toNat
    closed := m % 2 == 0 }

/-- Is `point · 10^k` in the interval? -/
def Interval.has (i : Interval) (point : Nat) (k : Int) : Bool :=
  let scaled := point * Nat.pow 10 k.toNat * i.den
  let low := i.low * Nat.pow 10 (-k).toNat
  let high := i.high * Nat.pow 10 (-k).toNat
  if i.closed then low ≤ scaled && scaled ≤ high else low < scaled && scaled < high

/-- The largest `e` with `10^e` at most the value. -/
def Interval.magnitude (i : Interval) : Int :=
  let e : Int := digitCount i.value - digitCount i.den
  if Nat.pow 10 e.toNat * i.den ≤ i.value * Nat.pow 10 (-e).toNat then e else e - 1

/-- The point of the grid `10^k` in the interval that is nearest to the value. -/
def Interval.nearest? (i : Interval) (k : Int) : Option Nat :=
  let num := i.value * Nat.pow 10 (-k).toNat
  let unit := i.den * Nat.pow 10 k.toNat
  let below := num / unit
  match i.has below k, i.has (below + 1) k with
  | true, true =>
    let twice := 2 * (num % unit)
    if twice < unit || (twice == unit && below % 2 == 0) then some below else some (below + 1)
  | true, false => some below
  | false, true => some (below + 1)
  | false, false => none

/-- The first grid with a hit, from one digit to seventeen. -/
def Interval.shortest (i : Interval) : Decimal :=
  let e := i.magnitude
  let hit := (List.range 17).findSome? fun (n : Nat) =>
    let k := e - (n : Int)
    (i.nearest? k).map fun point => Decimal.mk point k
  (hit.getD ⟨0, 0⟩).dropZeros 400

end Decimal

/-- A finite binary number, taken apart: its sign and its shortest decimal. -/
def shortestDecimal (x : Float) : Bool × Decimal :=
  let bits : Nat := x.toBits.toNat
  let fraction : Nat := bits % Nat.pow 2 52
  let biased : Nat := bits / Nat.pow 2 52 % Nat.pow 2 11
  let negative := bits / Nat.pow 2 63 == 1
  if biased = 0 ∧ fraction = 0 then (negative, ⟨0, 0⟩)
  else if biased = 0 then
    (negative, (Decimal.Interval.ofBinary fraction (-1074) false).shortest)
  else
    let narrow := fraction == 0 && decide (1 < biased)
    (negative, (Decimal.Interval.ofBinary (fraction + Nat.pow 2 52) ((biased : Int) - 1075) narrow).shortest)

end ClusterNav
