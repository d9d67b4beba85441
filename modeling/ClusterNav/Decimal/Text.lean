import ClusterNav.Decimal.Shortest

/-!
# Writing and reading decimals

Two written forms of a finite number: positional, and one that changes to an exponent for very large
and very small values.  Both have at least one digit after the point when there is no exponent.
The other direction is the grammar of decimal numbers.
-/

namespace ClusterNav
namespace Decimal

/-- Digits with the point after the first `whole` of them, padded by zeros on either side. -/
def positional (digits : List Char) (whole : Int) : List Char :=
  if whole ≤ 0 then
    ['0', '.'] ++ List.replicate (-whole).toNat '0' ++ digits
  else
    let n := whole.toNat
    if digits.length ≤ n then digits ++ List.replicate (n - digits.length) '0' ++ ['.', '0']
    else digits.take n ++ ['.'] ++ digits.drop n

/-- Digits with an exponent, the point after the first digit when there are more. -/
def exponential (digits : List Char) (whole : Int) : List Char :=
  let mantissa :=
    match digits with
    | d :: e :: rest => d :: '.' :: e :: rest
    | short => short
  mantissa ++ ['e'] ++ (toString (whole - 1)).toList

/-- The written form of a finite number; `choose` says for which places of the point it is
positional. -/
def text (choose : Int → Bool) (x : Float) : String :=
  let (negative, d) := shortestDecimal x
  let digits := Nat.toDigits 10 d.digits
  let whole := (digits.length : Int) + d.exponent
  let body := if choose whole then positional digits whole else exponential digits whole
  String.ofList (if negative then '-' :: body else body)

/-- A finite number without an exponent. -/
def plainText (x : Float) : String :=
  text (fun _ => true) x

/-- The digits at the start of a text, and the rest. -/
def splitDigits (cs : List Char) : List Char × List Char :=
  (cs.takeWhile Char.isDigit, cs.dropWhile Char.isDigit)

/-- The value of decimal digits. -/
def digitsValue (cs : List Char) : Nat :=
  cs.foldl (fun n c => 10 * n + (c.toNat - 48)) 0

/-- What a decimal number says: an infinity, no number, or digits with an exponent. -/
inductive Reading
  | infinite
  | notNumber
  | finite (digits : List Char) (exponent : Int)
deriving DecidableEq, Repr

/-- Drops one sign and says whether it was a minus. -/
def splitSign : List Char → Bool × List Char
  | '-' :: rest => (true, rest)
  | '+' :: rest => (false, rest)
  | cs => (false, cs)

/-- Reads an exponent, or nothing at the end of the text. -/
def readExponent? : List Char → Option Int
  | [] => some 0
  | c :: rest =>
    if c = 'e' || c = 'E' then
      let (negative, body) := splitSign rest
      if body.isEmpty || !body.all Char.isDigit then none
      else some (if negative then -(digitsValue body : Int) else digitsValue body)
    else none

/-- Reads an unsigned decimal number: a word for infinity or for no number, or digits with an
optional point and exponent. -/
def readUnsigned? (cs : List Char) : Option Reading :=
  let word := String.ofList (cs.map Char.toLower)
  if word = "inf" || word = "infinity" then some .infinite
  else if word = "nan" then some .notNumber
  else
    let (whole, rest) := splitDigits cs
    let (fraction, rest) :=
      match rest with
      | '.' :: more => splitDigits more
      | _ => ([], rest)
    if whole.isEmpty && fraction.isEmpty then none
    else (readExponent? rest).map fun e => .finite (whole ++ fraction) (e - fraction.length)

/-- Reads a decimal number with an optional sign. -/
def read? (cs : List Char) : Option (Bool × Reading) :=
  let (negative, body) := splitSign cs
  (readUnsigned? body).map fun r => (negative, r)

def isNumber (s : String) : Bool :=
  (read? s.toList).isSome

/-- The magnitude of digits with an exponent, rounded to a binary number. -/
def magnitude (digits : List Char) (exponent : Int) : Float :=
  let significant := digits.dropWhile (· == '0')
  let size := (significant.length : Int) + exponent
  if significant.isEmpty || size < -400 then 0.0
  else if size > 400 then 1.0 / 0.0
  else Float.ofScientific (digitsValue significant) (decide (exponent < 0)) exponent.natAbs

/-- The binary number of a reading. -/
def toFloat : Bool × Reading → Float
  | (negative, .infinite) => if negative then -(1.0 / 0.0) else 1.0 / 0.0
  | (_, .notNumber) => 0.0 / 0.0
  | (negative, .finite digits exponent) =>
    if negative then -(magnitude digits exponent) else magnitude digits exponent

end Decimal
end ClusterNav
