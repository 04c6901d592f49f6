import Schemata.Migration.Basic

/-!
# Sinks

A sink takes the statements of a run.  It keeps them in order, and may refuse the one that
comes at a given place.

* `Sink.take` — hands a statement to the sink;
* `Sink.printed` — the kept statements as text, one on each line;
* `Failure` — the messages of a failure, from the outermost to its first cause.
-/

namespace Schemata

/-- A failure, told from the outside in. -/
structure Failure where
  /-- The messages, outermost first. -/
  messages : List String
deriving DecidableEq, Repr

/-- The messages in one line. -/
def Failure.text (f : Failure) : String :=
  String.intercalate ": " f.messages

/-- A statement with the migration or seeder that it comes from. -/
structure Statement where
  /-- What the statement is applied for. -/
  source : String
  /-- The SQL text. -/
  sql : String
deriving DecidableEq, Repr

/-- The statement that a sink refuses. -/
structure Refusal where
  /-- The number of statements that come before it. -/
  index : Nat
  /-- Why it is refused. -/
  failure : Failure
deriving DecidableEq, Repr

/-- Where the statements of a run go. -/
structure Sink where
  /-- The statements that were taken. -/
  taken : List Statement := []
  /-- The statement that is refused, if any. -/
  refusal : Option Refusal := none
deriving DecidableEq, Repr

namespace Sink

/-- The sink with one more statement, or the failure if this one is refused. -/
def take (k : Sink) (s : Statement) : Except Failure Sink :=
  match k.refusal with
  | none => .ok { k with taken := k.taken ++ [s] }
  | some r =>
    if r.index = k.taken.length then .error r.failure
    else .ok { k with taken := k.taken ++ [s] }

/-- The statements that were taken, one on each line. -/
def printed (k : Sink) : String :=
  String.join (k.taken.map (·.sql ++ "\n"))

end Sink

end Schemata
