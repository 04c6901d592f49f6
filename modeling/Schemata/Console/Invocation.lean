import Schemata.Skeleton.Kind

/-!
# Invocations

What a command line asks for, once it is read.
-/

namespace Schemata

/-- What to do. -/
inductive Command where
  /-- Applies every migration, and seeds if asked to. -/
  | migrate (seed : Bool)
  /-- Takes every migration back. -/
  | rollback
  /-- Takes every migration back, applies it again, and seeds if asked to. -/
  | refresh (seed : Bool)
  /-- Runs the seeder. -/
  | seed
  /-- Lists the migrations, as JSON if asked to. -/
  | status (json : Bool)
  /-- Generates a skeleton.  Without a directory it goes to the usual one. -/
  | make (kind : SkeletonKind) (name dir : Option String)
deriving DecidableEq, Repr

/-- What a command line asks for. -/
structure Invocation where
  /-- The driver. -/
  driver : String
  /-- The directory of migrations. -/
  migrationsDir : String
  /-- Whether identifiers are checked. -/
  strict : Bool
  /-- Whether details are shown. -/
  verbose : Bool
  /-- What to do.  Without a command, help is shown. -/
  command : Option Command
deriving DecidableEq, Repr

namespace Invocation

/-- The driver when none is given. -/
def defaultDriver : String := "mysql"

/-- The directory of migrations when none is given. -/
def defaultMigrationsDir : String := "database/schema"

end Invocation

end Schemata
