import ClusterNav.Text.Blank

/-!
# Compact ages

Ages are written as digits and units (`45s`, `2d4h`).  A run of digits counts for the unit of the
character after it; every step stops at the largest 64-bit number.
-/

namespace ClusterNav
namespace Age

def limit : Nat := 0xFFFFFFFFFFFFFFFF

/-- A number stopped at the limit. -/
def saturate (n : Nat) : Nat := min n limit

/-- Seconds in the unit that a character names; other characters name none. -/
def unit (c : Char) : Nat :=
  match c with
  | 's' => 1
  | 'm' => 60
  | 'h' => 3600
  | 'd' => 86400
  | 'y' => 31536000
  | _ => 0

/-- The decimal value of digits, the last digit first. -/
def runValue : List Char → Nat
  | [] => 0
  | d :: rest => 10 * runValue rest + (d.toNat - 48)

/-- Seconds of the rest of an age, after the digits of an open run (the last first). -/
def secondsAfter (total : Nat) (run : List Char) : List Char → Nat
  | [] => total
  | c :: rest =>
    if c.isDigit then secondsAfter total (c :: run) rest
    else
      let value := saturate (runValue run)
      secondsAfter (saturate (total + saturate (value * unit c))) [] rest

end Age

/-- Seconds of a compact age. -/
def ageSeconds (age : String) : Nat :=
  Age.secondsAfter 0 [] (Text.trimChars age.toList)

end ClusterNav
