import Schemata.Column.Kind
import Schemata.Text.Ascii
import Schemata.Text.Blank
import Schemata.Text.Decimal
import Schemata.Text.Json

/-!
# SQL dialects

Everything in which the two backends differ: type names and the clause of a primary key.

* `Dialect.ofDriver` — the dialect of a configured driver.  Every text names one: `pgsql`, in
  any ASCII case and between any blanks, is Postgres, and all else is generic.
* `Dialect.driver` — the driver that selects the dialect (`ofDriver_driver`).
* `Dialect.typeName`, `Dialect.primaryKeyClause` — the dialect-dependent parts of a column.
-/

namespace Schemata

/-- The backend that statements are written for. -/
inductive Dialect where
  /-- Statements in the manner of MySQL. -/
  | generic
  /-- Statements for Postgres. -/
  | postgres
deriving DecidableEq, Repr, Inhabited

namespace Dialect

/-! ### Drivers -/

/-- The dialect selected by a driver. -/
def ofDriver (driver : String) : Dialect :=
  if Ascii.sameLetters (trim driver) "pgsql" then .postgres else .generic

/-- The driver that selects the dialect. -/
def driver : Dialect → String
  | .generic => "mysql"
  | .postgres => "pgsql"

/-- The name of the dialect. -/
def name : Dialect → String
  | .generic => "generic"
  | .postgres => "postgres"

theorem ofDriver_driver (d : Dialect) : ofDriver d.driver = d := by
  cases d <;> decide

/-! ### Exchange as JSON -/

/-- The dialect as a JSON text, which names its driver. -/
def toJson (d : Dialect) : String :=
  Json.quote d.driver

/-- The dialect of a JSON text that is a string. -/
def ofJson? (json : String) : Option Dialect :=
  (Json.readString? json).map ofDriver

/-! ### Columns -/

/-- The SQL type of a column. -/
def typeName : Dialect → ColumnKind → String
  | .postgres, .id => "SERIAL"
  | .generic, .id => "INTEGER"
  | _, .unsignedInteger => "INT"
  | .postgres, .integer => "bigint"
  | .generic, .integer => "INTEGER(11)"
  | _, .string length => "VARCHAR(" ++ Decimal.ofNat length ++ ")"
  | _, .text => "TEXT"
  | .postgres, .dateTime | .postgres, .createdAt | .postgres, .updatedAt =>
    "timestamp without time zone"
  | .generic, .dateTime | .generic, .createdAt | .generic, .updatedAt => "datetime"

/-- The clause that makes a column the primary key.  The numbering of a Postgres key comes with
its type. -/
def primaryKeyClause : Dialect → String
  | .postgres => "PRIMARY KEY"
  | .generic => "PRIMARY KEY AUTO_INCREMENT"

end Dialect

end Schemata
