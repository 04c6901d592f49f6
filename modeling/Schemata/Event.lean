import Schemata.Migration.Basic
import Schemata.Skeleton.Kind

/-!
# Events

What the tables, the runs and the command line tell about their work.  An event has a level, a
message and named fields, all determined by its cause.
-/

namespace Schemata

/-- How much attention an event asks for. -/
inductive Level where
  /-- Details. -/
  | debug
  /-- Progress. -/
  | info
  /-- Something unexpected. -/
  | warn
deriving DecidableEq, Repr

/-- The word for the level. -/
def Level.name : Level → String
  | .debug => "DEBUG"
  | .info => "INFO"
  | .warn => "WARN"

/-- Something that happened. -/
inductive Event where
  /-- A call on a table told about itself. -/
  | table (e : TableEvent)
  /-- A run over `count` migrations started. -/
  | running (direction : Direction) (dialect : Dialect) (count : Nat)
  /-- A statement is handed to the sink. -/
  | applying (migration sql : String)
  /-- The sink took the statement of a migration. -/
  | finished (migration : String) (direction : Direction)
  /-- A seeder succeeded. -/
  | seeded
  /-- The driver names no dialect of its own. -/
  | unknownDriver (driver : String)
  /-- There is no migration to work on. -/
  | nothingRegistered
  /-- There is no seeder to run. -/
  | noSeeder
  /-- A skeleton was written to the path. -/
  | generated (kind : SkeletonKind) (path : String)
deriving DecidableEq, Repr

namespace TableEvent

/-- The message of the event. -/
def message : TableEvent → String
  | .appended _ => "Appending fragment"
  | .columnModified _ _ => "Modifying column"
  | .foreignKeyModified _ _ => "Modifying foreign key"
  | .created _ _ _ => "Exported table"

/-- The fields of the event. -/
def fields : TableEvent → List (String × String)
  | .appended fragment => [("fragment", fragment)]
  | .columnModified column m => [("column", column), ("modifier", m.name)]
  | .foreignKeyModified column m => [("column", column), ("modifier", m.name)]
  | .created table dialect fragments =>
    [("table", table), ("dialect", dialect.name), ("fragments", Decimal.ofNat fragments)]

end TableEvent

namespace Event

/-- The level of the event. -/
def level : Event → Level
  | .table _ => .debug
  | .applying _ _ => .debug
  | .unknownDriver _ => .warn
  | .noSeeder => .warn
  | _ => .info

/-- The message of the event. -/
def message : Event → String
  | .table e => e.message
  | .running _ _ _ => "Running migrations"
  | .applying _ _ => "Applying statement"
  | .finished migration .up => migration ++ " migrated"
  | .finished migration .down => migration ++ " rolled back"
  | .seeded => "Seeded"
  | .unknownDriver _ => "Unknown driver, using the generic dialect"
  | .nothingRegistered =>
    "No migrations registered. Use `make migration <name>` to create one."
  | .noSeeder => "No seeder registered, skipping"
  | .generated kind path => "Created " ++ kind.label ++ ": " ++ path

/-- The fields of the event. -/
def fields : Event → List (String × String)
  | .table e => e.fields
  | .running direction dialect count =>
    [("direction", direction.name), ("dialect", dialect.name), ("count", Decimal.ofNat count)]
  | .applying migration sql => [("migration", migration), ("sql", sql)]
  | .unknownDriver driver => [("driver", driver)]
  | _ => []

/-- Whether the event comes from a table. -/
def ofTable : Event → Bool
  | .table _ => true
  | _ => false

end Event

end Schemata
