import Schemata.Migration.Basic
import Schemata.Skeleton.Kind

/-!
# Failed tasks

Why a run of migrations, a seeder or the generation of a skeleton failed.
-/

namespace Schemata

/-- Why a task failed. -/
inductive TaskError where
  /-- A script failed with the cause. -/
  | schema (migration : String) (cause : TableError)
  /-- The name is taken. -/
  | duplicateMigration (name : String)
  /-- The sink refused the statement of a migration. -/
  | sink (migration message : String)
  /-- A seeder failed. -/
  | seeder (message : String)
  /-- The name has no usable character. -/
  | missingName (kind : SkeletonKind)
  /-- There is something at the path. -/
  | fileExists (path : String)
  /-- The file system refused. -/
  | io
deriving DecidableEq, Repr

/-- The cause in words. -/
def TaskError.message : TaskError → String
  | .schema migration cause => "Migration '" ++ migration ++ "' failed: " ++ cause.message
  | .duplicateMigration name => "Migration '" ++ name ++ "' is already registered"
  | .sink migration message =>
    "Failed to apply migration '" ++ migration ++ "': " ++ message
  | .seeder message => "Seeder failed: " ++ message
  | .missingName kind => "A name is required to create a " ++ kind.label
  | .fileExists path => "File already exists: " ++ path
  | .io => "IO error"

end Schemata
