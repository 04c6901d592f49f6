import Schemata.Dialect

/-!
# Columns

A column of a table definition and its text.

* `ColumnDefault.sql` — the text of a default.  A string stands between single quotes, and
  each quote inside it is written twice;
* `Column.render` — name, type, nullability, primary key, default and uniqueness, in this
  order.
-/

namespace Schemata

/-- The value that a column takes when a row gives none. -/
inductive ColumnDefault where
  /-- A string. -/
  | string (s : String)
  /-- An integer. -/
  | integer (n : Int)
  /-- An SQL expression, taken as it is. -/
  | expression (sql : String)
deriving DecidableEq, Repr

namespace ColumnDefault

/-- The characters of an SQL string as they stand between the quotes. -/
def quoted : List Char → List Char
  | [] => []
  | c :: cs => if c = '\'' then '\'' :: '\'' :: quoted cs else c :: quoted cs

/-- The text of the default. -/
def sql : ColumnDefault → String
  | .string s => "'" ++ String.ofList (quoted s.toList) ++ "'"
  | .integer n => Decimal.ofInt n
  | .expression sql => sql

end ColumnDefault

/-- The definition of a column. -/
structure Column where
  /-- The name. -/
  name : String
  /-- The logical type. -/
  kind : ColumnKind
  /-- Whether the column may be without a value. -/
  nullable : Bool := false
  /-- The value of rows that give none. -/
  default : Option ColumnDefault := none
  /-- Whether no two rows may agree. -/
  unique : Bool := false
deriving DecidableEq, Repr

namespace Column

/-- Whether the column may be without a value, in words. -/
def nullClause (c : Column) : String :=
  if c.nullable then " NULL" else " NOT NULL"

/-- The clause of a primary key, if the column is one. -/
def keyClause (c : Column) (d : Dialect) : String :=
  if c.kind.isPrimaryKey then " " ++ d.primaryKeyClause else ""

/-- The clause of the default, if there is one. -/
def defaultClause (c : Column) : String :=
  match c.default with
  | none => ""
  | some v => " DEFAULT " ++ v.sql

/-- The clause of uniqueness, if the column is unique. -/
def uniqueClause (c : Column) : String :=
  if c.unique then " UNIQUE" else ""

/-- The text of the column in a dialect. -/
def render (c : Column) (d : Dialect) : String :=
  c.name ++ " " ++ d.typeName c.kind ++ c.nullClause ++ c.keyClause d ++ c.defaultClause ++
    c.uniqueClause

end Column

end Schemata
