import Schemata.Table.Script

/-!
# Migrations

A migration changes a schema in one direction and can take the change back in the other.  Each
direction is a script that runs on a table of its own and gives one statement.

* `Migration.render` — the statement of a migration, with the events of its script.
-/

namespace Schemata

/-- Which way a migration goes. -/
inductive Direction where
  /-- Applies the change. -/
  | up
  /-- Takes the change back. -/
  | down
deriving DecidableEq, Repr

/-- The word for the direction. -/
def Direction.name : Direction → String
  | .up => "up"
  | .down => "down"

/-- A schema change. -/
structure Migration where
  /-- Applies the change. -/
  up : Script
  /-- Takes the change back. -/
  down : Script
deriving Repr

/-- For which dialect statements are written, and whether identifiers are checked. -/
structure Mode where
  /-- The dialect of the statements. -/
  dialect : Dialect
  /-- Whether only valid identifiers are accepted. -/
  strict : Bool := false
deriving DecidableEq, Repr

/-- The table on which a migration starts. -/
def Mode.freshTable (mode : Mode) : Table :=
  { dialect := mode.dialect, strict := mode.strict }

namespace Migration

/-- The script of a direction. -/
def script (m : Migration) : Direction → Script
  | .up => m.up
  | .down => m.down

/-- The outcome of the script of a direction on a fresh table. -/
def outcome (m : Migration) (mode : Mode) (direction : Direction) : Outcome :=
  (m.script direction).run mode.freshTable

/-- The statement of a direction, which is empty if the script gives none. -/
def render (m : Migration) (mode : Mode) (direction : Direction) : Except TableError String :=
  match (m.outcome mode direction).reply with
  | .error e => .error e
  | .ok sql => .ok (sql.getD "")

end Migration

end Schemata
