import Schemata.Text.Ascii
import Schemata.Text.Decimal

/-!
# Identifiers

An identifier that needs no quotes starts with a letter or an underscore, goes on with letters,
digits and underscores, fits in 63 bytes and is not a reserved word.  Letters and digits are
those of ASCII.

* `Identifier.fault?` — the first of these rules that a text breaks;
* `Identifier.Fault.reason` — the rule in words.
-/

namespace Schemata

namespace Identifier

/-! ### Characters -/

/-- Whether an identifier may start with the character. -/
def isHead (c : Char) : Bool :=
  c.isAlpha || c == '_'

/-- Whether an identifier may go on with the character. -/
def isTail (c : Char) : Bool :=
  c.isAlphanum || c == '_'

/-! ### Reserved words -/

/-- The words of SQL that are no identifiers. -/
def reservedWords : List String :=
  ["ALL", "ALTER", "AND", "AS", "ASC", "BETWEEN", "BY", "CASE", "CHECK", "COLUMN",
   "CONSTRAINT", "CREATE", "DEFAULT", "DELETE", "DESC", "DISTINCT", "DROP", "ELSE", "END",
   "EXISTS", "FOREIGN", "FROM", "GRANT", "GROUP", "HAVING", "IN", "INDEX", "INSERT", "INTO",
   "IS", "JOIN", "KEY", "LIKE", "LIMIT", "NOT", "NULL", "ON", "OR", "ORDER", "PRIMARY",
   "REFERENCES", "SELECT", "SET", "TABLE", "THEN", "TO", "UNION", "UNIQUE", "UPDATE",
   "USER", "USING", "VALUES", "WHEN", "WHERE", "WITH"]

/-- Whether the text is a reserved word, in any ASCII case. -/
def isReserved (s : String) : Bool :=
  reservedWords.any (Ascii.sameLetters · s)

/-! ### Validity -/

/-- The number of bytes that an identifier may have. -/
def maxLength : Nat := 63

/-- What is wrong with a text that is no identifier. -/
inductive Fault where
  /-- There is no character. -/
  | empty
  /-- The first character is neither a letter nor an underscore. -/
  | head
  /-- Another character is not a letter, a digit or an underscore. -/
  | tail
  /-- There are too many bytes. -/
  | length
  /-- The text is a reserved word. -/
  | reserved
deriving DecidableEq, Repr

/-- The broken rule in words. -/
def Fault.reason : Fault → String
  | .empty => "identifier is empty"
  | .head => "must start with a letter or underscore"
  | .tail => "only ASCII letters, digits and underscores are allowed"
  | .length => "longer than " ++ Decimal.ofNat maxLength ++ " characters"
  | .reserved => "reserved word"

/-- The first rule that the text breaks, and nothing if it is an identifier. -/
def fault? (s : String) : Option Fault :=
  match s.toList with
  | [] => some .empty
  | c :: cs =>
    if !isHead c then some .head
    else if !cs.all isTail then some .tail
    else if s.utf8ByteSize > maxLength then some .length
    else if isReserved s then some .reserved
    else none

end Identifier

end Schemata
