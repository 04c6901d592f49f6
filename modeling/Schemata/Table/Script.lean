import Schemata.Table.Call

/-!
# Scripts

A script is a list of steps on one table.  It stops at the first step that fails, with the
effects of the steps before it kept, and its statement is the last one that a step gave.

* `Step` — a call, a preview of the statement, a step whose failure does not matter, or a
  script inside a script;
* `Step.run`, `Script.run` — the outcomes;
* `Script.trace` — the outcome of every step when none stops the others.
-/

namespace Schemata

/-- A step of a script. -/
inductive Step where
  /-- A call on the table. -/
  | call (c : Call)
  /-- The statement that creates the table, with the fragments left in place. -/
  | preview
  /-- A step that may fail, in which case it gives no statement. -/
  | attempt (step : Step)
  /-- The steps of an inner script. -/
  | sequence (steps : List Step)
deriving Repr

/-- The steps in order. -/
abbrev Script := List Step

mutual

/-- The outcome of a step. -/
def Step.run (t : Table) : Step → Outcome
  | .call c => t.perform c
  | .preview => { t.perform .create with table := t }
  | .attempt step =>
    let o := step.run t
    { o with
      reply := match o.reply with
        | .error _ => .ok none
        | .ok sql => .ok sql }
  | .sequence steps => Script.runFrom t none steps

/-- The outcome of the steps that are left, when `sql` is the last statement so far. -/
def Script.runFrom (t : Table) (sql : Option String) : List Step → Outcome
  | [] => { reply := .ok sql, table := t }
  | step :: rest =>
    let o := step.run t
    match o.reply with
    | .error _ => o
    | .ok new =>
      let o' := Script.runFrom o.table (new.or sql) rest
      { o' with events := o.events ++ o'.events }

end

namespace Script

/-- The outcome of a script. -/
def run (t : Table) (script : Script) : Outcome :=
  runFrom t none script

/-- The outcomes of the steps, each on the table that the one before it left, failed or not. -/
def trace (t : Table) : Script → List Outcome
  | [] => []
  | step :: rest => step.run t :: trace (step.run t).table rest

end Script

end Schemata
