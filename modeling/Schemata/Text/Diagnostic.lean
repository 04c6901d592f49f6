import Schemata.Text.Json
import Schemata.Text.Printable

/-!
# Quoted texts in diagnostics

A diagnostic shows a text between double quotes so that every character can be told: quotes,
backslashes and the common controls are written with a backslash, and a character that is not
printable, or that attaches to the one before it, by its code point.
-/

namespace Schemata

namespace Diagnostic

/-- The hexadecimal digits of `n`, most significant first. -/
def hexDigits (n : Nat) : List Char :=
  if n < 16 then [Json.hexDigit n] else hexDigits (n / 16) ++ [Json.hexDigit (n % 16)]
termination_by n

/-- A character as it stands in a quoted text. -/
def escapeChar (c : Char) : List Char :=
  if c.toNat = 0 then ['\\', '0']
  else if c = '\t' then ['\\', 't']
  else if c = '\r' then ['\\', 'r']
  else if c = '\n' then ['\\', 'n']
  else if c = '"' ∨ c = '\\' then ['\\', c]
  else if isGraphemeExtend c || !isPrintable c then
    ['\\', 'u', '\x7b'] ++ hexDigits c.toNat ++ ['\x7d']
  else [c]

/-- The text between double quotes. -/
def quote (s : String) : String :=
  "\"" ++ String.ofList (s.toList.flatMap escapeChar) ++ "\""

end Diagnostic

end Schemata
