import Schemata.Console.Help
import Schemata.Console.Invocation
import Schemata.Migration.Run
import Schemata.Skeleton.Write

/-!
# Running an invocation

An invocation runs migrations, seeds, lists or generates.  Each phase works on what the phase
before it left, and the first failure ends the invocation.

* `World` — what an invocation works on: the sink and the file tree;
* `Invocation.run` — the outcome of an invocation.
-/

namespace Schemata

/-- What the application brings along. -/
structure Application where
  /-- The migrations. -/
  registry : Registry := .empty
  /-- The seeder, if there is one. -/
  seeder : Option Seeder := none

/-- What an invocation works on. -/
structure World where
  /-- The driver that the environment configures. -/
  configured : Option String := none
  /-- The time in seconds. -/
  now : Int
  /-- Where statements go. -/
  sink : Sink := {}
  /-- Where files are. -/
  tree : FileTree

/-- The outcome of an invocation. -/
structure Finish where
  /-- Whether it succeeded. -/
  result : Except TaskError Unit
  /-- Where statements went. -/
  sink : Sink
  /-- Where files are. -/
  tree : FileTree
  /-- The events in order. -/
  events : List Event := []
  /-- What the invocation itself printed. -/
  output : String := ""

namespace Invocation

variable (i : Invocation)

/-! ### The dialect -/

/-- The dialect of the driver. -/
def dialect : Dialect :=
  .ofDriver i.driver

/-- A warning if the driver names neither dialect. -/
def driverEvents : List Event :=
  if i.dialect = .generic ∧ !Ascii.sameLetters i.driver "mysql" then [.unknownDriver i.driver]
  else []

/-- For which dialect statements are written, and whether identifiers are checked. -/
def mode : Mode :=
  { dialect := i.dialect, strict := i.strict }

/-! ### Directories -/

/-- The directory of a kind of skeletons when none is given. -/
def defaultDir : SkeletonKind → String
  | .migration => i.migrationsDir
  | .model => "src/models"
  | .seeder => "database/seeders"

end Invocation

namespace Console

/-! ### Seeding -/

/-- Runs the seeder.  Without one there is only a warning. -/
def seed (app : Application) (d : Dialect) (sink : Sink) : Run Unit :=
  match app.seeder with
  | some seeder => seeder.seed d sink
  | none => { result := .ok (), sink, events := [.noSeeder] }

/-- Runs the seeder after a run, if asked to. -/
def seedAfter (app : Application) (d : Dialect) (wanted : Bool) (r : Run (List Report)) :
    Run Unit :=
  r.andThen fun _ sink =>
    if wanted then seed app d sink else { result := .ok (), sink, events := [] }

/-! ### Lists -/

/-- The statements as a table. -/
def table (d : Dialect) (reports : List Report) : String :=
  "\nMigrations (" ++ d.name ++ "):\n" ++ String.ofList (List.replicate 60 '-') ++ "\n" ++
    String.join (reports.map fun r => " " ++ r.name ++ "\n     " ++ r.sql ++ "\n") ++ "\n"

/-- The statements as a JSON document. -/
def document (reports : List Report) : String :=
  (Json.Value.list (reports.map Report.toJson)).indented ++ "\n"

end Console

/-- Whether the command works on migrations. -/
def Command.needsMigrations : Command → Bool
  | .seed | .make _ _ _ => false
  | _ => true

namespace Invocation

variable (i : Invocation) (app : Application) (w : World)

/-! ### Commands -/

/-- The finish of a command that works on the sink alone. -/
def finishRun (r : Run Unit) : Finish :=
  { result := r.result, sink := r.sink, tree := w.tree, events := r.events }

/-- Carries out a command. -/
def perform : Command → Finish
  | .migrate seed =>
    finishRun w (Console.seedAfter app i.dialect seed (app.registry.migrate i.mode w.sink))
  | .rollback =>
    finishRun w (Console.seedAfter app i.dialect false (app.registry.rollback i.mode w.sink))
  | .refresh seed =>
    finishRun w (Console.seedAfter app i.dialect seed (app.registry.refresh i.mode w.sink))
  | .seed => finishRun w (Console.seed app i.dialect w.sink)
  | .status json =>
    let plan := app.registry.plan i.mode .up w.sink
    match plan.result with
    | .error e =>
      { result := .error e, sink := w.sink, tree := w.tree, events := plan.events }
    | .ok reports =>
      { result := .ok (), sink := w.sink, tree := w.tree, events := plan.events
        output := if json then Console.document reports else Console.table i.dialect reports }
  | .make kind name dir =>
    let written :=
      Skeleton.generate kind (name.getD "") w.now (dir.getD (i.defaultDir kind)) w.tree
    { result := written.result.map fun _ => ()
      sink := w.sink, tree := written.tree, events := written.events }

/-- The events before a command is carried out. -/
def openingEvents (c : Command) : List Event :=
  i.driverEvents ++
    if app.registry.isEmpty && c.needsMigrations then [.nothingRegistered] else []

/-- The outcome of the invocation. -/
def run : Finish :=
  match i.command with
  | none =>
    { result := .ok (), sink := w.sink, tree := w.tree, output := Console.help w.configured }
  | some c =>
    let f := i.perform app w c
    { f with events := i.openingEvents app c ++ f.events }

end Invocation

end Schemata
