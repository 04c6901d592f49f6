import Schemata.Table.Basic

/-!
# Calls

The calls on a table as data, so that a definition can be stored, replayed and compared.

* `Call` — one call with its arguments;
* `Table.perform` — its outcome on a table;
* `Table.performAll` — the outcomes of a sequence of calls, each on the table that the one
  before it left.  A refused call does not end the sequence.
-/

namespace Schemata

/-- A call on a table. -/
inductive Call where
  /-- Names the table. -/
  | setName (name : String)
  /-- Forgets the name and the fragments. -/
  | reset
  /-- Adds a column. -/
  | column (name : String) (kind : ColumnKind)
  /-- Adds the pair of timestamp columns. -/
  | timestamps
  /-- Makes the last column nullable. -/
  | nullable
  /-- Sets the default of the last column. -/
  | default (value : ColumnDefault)
  /-- Makes the last column unique. -/
  | unique
  /-- Starts a foreign key. -/
  | foreign (column : String)
  /-- Sets the referenced column of the last foreign key. -/
  | references (column : String)
  /-- Sets the referenced table of the last foreign key. -/
  | on (table : String)
  /-- Lets the last foreign key delete with the row that it refers to. -/
  | cascadeOnDelete
  /-- Adds any fragment. -/
  | append (fragment : Fragment)
  /-- Puts any fragment in place of the last. -/
  | replaceLast (fragment : Fragment)
  /-- Gives the statement that creates the table. -/
  | create
  /-- Gives the statement that drops the table. -/
  | drop
deriving DecidableEq, Repr

namespace Call

/-! ### Calls with arguments left out -/

/-- Adds the primary key under its usual name. -/
def defaultId : Call :=
  .column "id" .id

/-- Adds a string column of the usual length. -/
def string (name : String) : Call :=
  .column name (.string ColumnKind.defaultLength)

end Call

namespace Table

/-- The outcome of a call. -/
def perform (t : Table) : Call → Outcome
  | .setName name => t.setName name
  | .reset => t.reset
  | .column name kind => t.column name kind
  | .timestamps => t.timestamps
  | .nullable => t.nullable
  | .default value => t.setDefault value
  | .unique => t.unique
  | .foreign column => t.foreign column
  | .references column => t.references column
  | .on table => t.on table
  | .cascadeOnDelete => t.cascadeOnDelete
  | .append fragment => t.append fragment
  | .replaceLast fragment => t.replaceLast fragment
  | .create => t.create
  | .drop => t.drop

/-- The outcomes of a sequence of calls. -/
def performAll (t : Table) : List Call → List Outcome
  | [] => []
  | c :: cs => t.perform c :: performAll (t.perform c).table cs

end Table

end Schemata
