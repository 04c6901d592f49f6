/-!
# Column kinds

What a column holds, before a dialect gives it an SQL type.
-/

namespace Schemata

/-- The logical type of a column. -/
inductive ColumnKind where
  /-- A primary key that numbers itself. -/
  | id
  /-- A whole number. -/
  | unsignedInteger
  /-- A whole number whose width depends on the dialect. -/
  | integer
  /-- Text of at most `length` characters. -/
  | string (length : Nat)
  /-- Text of any length. -/
  | text
  /-- A point in time. -/
  | dateTime
  /-- The time at which a row was made. -/
  | createdAt
  /-- The time at which a row was last changed. -/
  | updatedAt
deriving DecidableEq, Repr

namespace ColumnKind

/-- The length of a string column when none is given. -/
def defaultLength : Nat := 255

/-- Whether the column is the primary key. -/
def isPrimaryKey : ColumnKind → Bool
  | .id => true
  | _ => false

end ColumnKind

end Schemata
