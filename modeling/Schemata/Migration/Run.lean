import Schemata.Event
import Schemata.Migration.Registry
import Schemata.Migration.Report
import Schemata.Migration.Seeder

/-!
# Runs

A run visits the migrations of a registry, writes the statement of each on a fresh table and
hands it to the sink.  It stops at the first migration that fails or that the sink refuses.

* `Registry.plan` — the reports of a run without a sink;
* `Registry.migrate`, `Registry.rollback` — the runs in the two directions;
* `Registry.refresh` — the second followed by the first, if it succeeds;
* `Seeder.seed` — a seeder as a run of its own.
-/

namespace Schemata

/-- The result of a run, the sink that it leaves, and its events. -/
structure Run (α : Type) where
  /-- The result. -/
  result : Except TaskError α
  /-- The sink after the run. -/
  sink : Sink
  /-- The events in order. -/
  events : List Event

namespace Run

/-- A run followed by another one that needs its result. -/
def andThen {α β : Type} (r : Run α) (next : α → Sink → Run β) : Run β :=
  match r.result with
  | .error e => { result := .error e, sink := r.sink, events := r.events }
  | .ok a =>
    let r' := next a r.sink
    { r' with events := r.events ++ r'.events }

/-- A run with an event before its own. -/
def after {α : Type} (r : Run α) (e : Event) : Run α :=
  { r with events := e :: r.events }

end Run

namespace Migration

/-- The events of the script of a direction. -/
def events (m : Migration) (mode : Mode) (direction : Direction) : List Event :=
  (m.outcome mode direction).events.map .table

end Migration

namespace Registry

/-! ### Plans -/

/-- The reports of the migrations in order, or the error of the first that fails. -/
def planEntries (mode : Mode) (direction : Direction) :
    List (String × Migration) → Except TaskError (List Report)
  | [] => .ok []
  | (name, m) :: rest =>
    match m.render mode direction with
    | .error e => .error (.schema name e)
    | .ok sql =>
      match planEntries mode direction rest with
      | .error e => .error e
      | .ok reports => .ok ({ name, direction, sql } :: reports)

/-- The events of the scripts that a plan runs. -/
def planEvents (mode : Mode) (direction : Direction) : List (String × Migration) → List Event
  | [] => []
  | (_, m) :: rest =>
    m.events mode direction ++
      match m.render mode direction with
      | .error _ => []
      | .ok _ => planEvents mode direction rest

/-- What a run in the direction would apply.  Nothing is handed to the sink. -/
def plan (r : Registry) (mode : Mode) (direction : Direction) (sink : Sink) : Run (List Report) :=
  { result := planEntries mode direction (r.inOrder direction)
    sink
    events := planEvents mode direction (r.inOrder direction) }

/-! ### Runs -/

/-- Visits the migrations in order. -/
def visit (mode : Mode) (direction : Direction) (sink : Sink) :
    List (String × Migration) → Run (List Report)
  | [] => { result := .ok [], sink, events := [] }
  | (name, m) :: rest =>
    let told := m.events mode direction
    match m.render mode direction with
    | .error e => { result := .error (.schema name e), sink, events := told }
    | .ok sql =>
      let told := told ++ [.applying name sql]
      match sink.take { source := name, sql } with
      | .error f => { result := .error (.sink name f.text), sink, events := told }
      | .ok sink =>
        let later := visit mode direction sink rest
        { result := later.result.map ({ name, direction, sql } :: ·)
          sink := later.sink
          events := told ++ .finished name direction :: later.events }

/-- Applies the migrations in the order of the direction. -/
def run (r : Registry) (mode : Mode) (direction : Direction) (sink : Sink) : Run (List Report) :=
  (visit mode direction sink (r.inOrder direction)).after
    (.running direction mode.dialect r.size)

/-- Applies every migration in ascending order. -/
def migrate (r : Registry) (mode : Mode) (sink : Sink) : Run (List Report) :=
  r.run mode .up sink

/-- Takes every migration back in descending order. -/
def rollback (r : Registry) (mode : Mode) (sink : Sink) : Run (List Report) :=
  r.run mode .down sink

/-- Takes everything back and applies it again. -/
def refresh (r : Registry) (mode : Mode) (sink : Sink) : Run (List Report) :=
  (r.rollback mode sink).andThen fun back sink =>
    (r.migrate mode sink).andThen fun forth sink =>
      { result := .ok (back ++ forth), sink, events := [] }

end Registry

/-! ### Seeding -/

/-- Runs a seeder.  Every failure inside it is a failure of the seeder. -/
def Seeder.seed (seeder : Seeder) (d : Dialect) (sink : Sink) : Run Unit :=
  match seeder.run d sink with
  | (some f, sink) => { result := .error (.seeder f.text), sink, events := [] }
  | (none, sink) => { result := .ok (), sink, events := [.seeded] }

end Schemata
