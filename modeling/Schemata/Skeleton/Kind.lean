/-!
# Kinds of skeletons

The three kinds of files that are generated to start from.
-/

namespace Schemata

/-- What a skeleton is for. -/
inductive SkeletonKind where
  /-- A migration, named by the time of its creation. -/
  | migration
  /-- The type of the rows of a table. -/
  | model
  /-- A seeder. -/
  | seeder
deriving DecidableEq, Repr

namespace SkeletonKind

/-- The word for the kind. -/
def label : SkeletonKind → String
  | .migration => "migration"
  | .model => "model"
  | .seeder => "seeder"

/-- The kind with the given word. -/
def ofLabel? (s : String) : Option SkeletonKind :=
  if s = "migration" then some .migration
  else if s = "model" then some .model
  else if s = "seeder" then some .seeder
  else none

theorem ofLabel?_label (k : SkeletonKind) : ofLabel? k.label = some k := by
  cases k <;> decide

end SkeletonKind

end Schemata
