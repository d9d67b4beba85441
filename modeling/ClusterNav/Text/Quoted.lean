import ClusterNav.Text.Printable

/-!
# Quoted text

A text between double quotes, as messages show it: quotes and backslashes are escaped, the usual
controls have short escapes, and every character that would not show is written by its code point.
-/

namespace ClusterNav
namespace Text

/-- The code point of a character in small hexadecimal digits. -/
def hexDigits (n : Nat) : List Char :=
  Nat.toDigits 16 n

/-- A character as it is written between quotes. -/
def escaped (c : Char) : List Char :=
  if c = '\x00' then ['\\', '0']
  else if c = '\t' then ['\\', 't']
  else if c = '\r' then ['\\', 'r']
  else if c = '\n' then ['\\', 'n']
  else if c = '\x22' || c = '\\' then ['\\', c]
  else if isExtending c || !isPrintable c then
    ['\\', 'u', '\x7b'] ++ hexDigits c.toNat ++ ['\x7d']
  else [c]

/-- The text between double quotes. -/
def quoted (s : String) : String :=
  String.ofList (['\x22'] ++ s.toList.flatMap escaped ++ ['\x22'])

end Text
end ClusterNav
