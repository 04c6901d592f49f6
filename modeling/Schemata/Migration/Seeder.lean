import Schemata.Migration.Sink

/-!
# Seeders

A seeder fills the tables after a run.  Its statements may leave a gap for the name of the
dialect.

* `Seeder.fill` — a statement with the gaps filled in;
* `Seeder.run` — hands the statements to a sink and fails where the sink or the seeder does.
-/

namespace Schemata

/-- The statements that fill the tables. -/
structure Seeder where
  /-- The statements, with gaps. -/
  statements : List Statement
  /-- How the seeder fails after its statements, if it does. -/
  failure : Option Failure := none
deriving DecidableEq, Repr

namespace Seeder

/-- The characters with `name` in every gap. -/
def fillGaps (name : List Char) : List Char → List Char
  | [] => []
  | '\x7b' :: 'd' :: 'i' :: 'a' :: 'l' :: 'e' :: 'c' :: 't' :: '\x7d' :: rest =>
    name ++ fillGaps name rest
  | c :: rest => c :: fillGaps name rest

/-- The statement with the name of the dialect in every gap. -/
def fill (d : Dialect) (s : Statement) : Statement :=
  { s with sql := String.ofList (fillGaps d.name.toList s.sql.toList) }

/-- Hands the statements to the sink, up to the first that is refused. -/
def takeAll (k : Sink) : List Statement → Option Failure × Sink
  | [] => (none, k)
  | s :: rest =>
    match k.take s with
    | .error f => (some f, k)
    | .ok k' => takeAll k' rest

/-- How the seeder fails on the sink, if it does, and the sink that it leaves. -/
def run (seeder : Seeder) (d : Dialect) (k : Sink) : Option Failure × Sink :=
  match takeAll k (seeder.statements.map (fill d)) with
  | (some f, k') => (some f, k')
  | (none, k') => (seeder.failure, k')

end Seeder

end Schemata
