import Schemata.TaskError
import Schemata.Skeleton.Name
import Schemata.Skeleton.Template

/-!
# Skeletons

A skeleton is a file to start from: a migration, a model or a seeder for a given name.

* `Skeleton.render` — the skeleton of a kind for a name, at a time in seconds;
* `Skeleton.pathIn` — the path of its file in a directory.
-/

namespace Schemata

/-- A generated file before it is written. -/
structure Skeleton where
  /-- What the file is for. -/
  kind : SkeletonKind
  /-- The name of the file without its ending; a migration is registered under it. -/
  fileStem : String
  /-- The name of the generated type. -/
  typeName : String
  /-- The table that the skeleton is about. -/
  table : String
  /-- The text of the file. -/
  contents : String
deriving DecidableEq, Repr

namespace Skeleton

/-- The name of the file without its ending.  That of a migration starts with its time. -/
def stem (kind : SkeletonKind) (name : List Char) (seconds : Int) : String :=
  match kind with
  | .migration => "m" ++ Decimal.ofInt seconds ++ "_" ++ String.ofList name
  | .model | .seeder => String.ofList name

/-- The table that a skeleton is about.  That of a model has the name of the type in small
letters. -/
def tableOf (kind : SkeletonKind) (name : List Char) : String :=
  match kind with
  | .migration => String.ofList (SkeletonName.migrationTable name)
  | .model => String.ofList ((SkeletonName.camel name).flatMap lowercase)
  | .seeder => String.ofList (SkeletonName.seederTable name)

/-- The skeleton for a name in normal form. -/
def ofName (kind : SkeletonKind) (name : List Char) (seconds : Int) : Skeleton :=
  let fileStem := stem kind name seconds
  let typeName := String.ofList (SkeletonName.camel name)
  let table := tableOf kind name
  let contents := fillInTurn { typeName, table, fileStem } [.typeName, .table, .fileStem]
    (templateText kind.template)
  { kind, fileStem, typeName, table, contents := String.ofList contents }

/-- The skeleton for a name that a user gave. -/
def render (kind : SkeletonKind) (name : String) (seconds : Int) : Except TaskError Skeleton :=
  match SkeletonName.normalize? name.toList with
  | none => .error (.missingName kind)
  | some name => .ok (ofName kind name seconds)

/-- The path of an entry of a directory.  An empty text is the current directory, and a path that
starts at the root leads there from every directory. -/
def join (dir entry : String) : String :=
  if entry.toList.head? = some '/' then entry
  else if dir = "" ∨ dir.toList.getLast? = some '/' then dir ++ entry
  else dir ++ "/" ++ entry

/-- The path of the file in a directory. -/
def pathIn (s : Skeleton) (dir : String) : String :=
  join dir (s.fileStem ++ ".rs")

end Skeleton

end Schemata
