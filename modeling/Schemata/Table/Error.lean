import Schemata.Identifier

/-!
# Refused calls

A call on a table that comes at the wrong moment, or that names something that strict mode does
not accept, is refused for one of the causes of `TableError`.
-/

namespace Schemata

/-- The calls that change the fragment added last. -/
inductive Modifier where
  /-- Makes a column nullable. -/
  | nullable
  /-- Sets the default of a column. -/
  | default
  /-- Makes a column unique. -/
  | unique
  /-- Sets the referenced column of a foreign key. -/
  | references
  /-- Sets the referenced table of a foreign key. -/
  | on
  /-- Lets a foreign key delete with the row that it refers to. -/
  | cascadeOnDelete
  /-- Puts another fragment in place of the last. -/
  | setLast
deriving DecidableEq, Repr

/-- The modifier as callers write it. -/
def Modifier.name : Modifier → String
  | .nullable => "nullable"
  | .default => "default"
  | .unique => "unique"
  | .references => "references"
  | .on => "on"
  | .cascadeOnDelete => "cascade_on_delete"
  | .setLast => "set_last"

/-- Why a call on a table was refused. -/
inductive TableError where
  /-- A modifier came before any column or constraint. -/
  | emptySequence (modifier : Modifier)
  /-- A modifier of foreign keys came after the column `found`. -/
  | misplacedForeignKeyModifier (modifier : Modifier) (found : String)
  /-- A modifier came at another stage of the foreign key on `column` than its own. -/
  | foreignKeyOutOfOrder (modifier expected : Modifier) (column : String)
  /-- A modifier of columns came after the foreign key on `column`. -/
  | notAColumn (modifier : Modifier) (column : String)
  /-- The foreign key on `column` lacks its referenced column or table. -/
  | incompleteForeignKey (column : String) (expected : Modifier)
  /-- The name given to the table is empty. -/
  | emptyTableName
  /-- The table has no name yet. -/
  | missingTableName
  /-- Strict mode does not accept the identifier. -/
  | invalidIdentifier (identifier : String) (fault : Identifier.Fault)
deriving DecidableEq, Repr

/-- The cause in words. -/
def TableError.message : TableError → String
  | .emptySequence m => "`" ++ m.name ++ "` called before any column or constraint was defined"
  | .misplacedForeignKeyModifier m found =>
    "`" ++ m.name ++ "` must follow `foreign`, but the last fragment is column `" ++ found ++ "`"
  | .foreignKeyOutOfOrder m expected column =>
    "`" ++ m.name ++ "` called out of order on foreign key `" ++ column ++ "`, expected `" ++
      expected.name ++ "`"
  | .notAColumn m column =>
    "`" ++ m.name ++ "` applies to columns, but the last fragment is foreign key `" ++ column ++
      "`"
  | .incompleteForeignKey column expected =>
    "foreign key `" ++ column ++ "` is incomplete, expected `" ++ expected.name ++ "`"
  | .emptyTableName => "table name cannot be empty"
  | .missingTableName => "no table name set, call `set_table` first"
  | .invalidIdentifier identifier fault =>
    "invalid identifier `" ++ identifier ++ "`: " ++ fault.reason

/-- Accepts the identifiers that strict mode accepts. -/
def Identifier.validate (s : String) : Except TableError Unit :=
  match fault? s with
  | none => .ok ()
  | some fault => .error (.invalidIdentifier s fault)

end Schemata
