import Schemata.Table.Error

/-!
# Foreign keys

A foreign key is built in three stages: it names a local column first, the referenced column
next and the referenced table last.  Only then it has a text.

* `ForeignKey.stage` — how far the key has come;
* `ForeignKey.render` — its text, refused while the key is incomplete.
-/

namespace Schemata

/-- A constraint that a local column refers to a column of another table. -/
structure ForeignKey where
  /-- The local column. -/
  column : String
  /-- The referenced column. -/
  references : Option String := none
  /-- The referenced table. -/
  table : Option String := none
  /-- Whether a row is deleted with the row that it refers to. -/
  cascadeOnDelete : Bool := false
deriving DecidableEq, Repr

namespace ForeignKey

/-- How far a foreign key has come. -/
inductive Stage where
  /-- The referenced column is missing. -/
  | awaitingReferences
  /-- The referenced table is missing. -/
  | awaitingOn
  /-- Nothing is missing. -/
  | complete
deriving DecidableEq, Repr

/-- The modifier that belongs to the stage. -/
def Stage.expected : Stage → Modifier
  | .awaitingReferences => .references
  | .awaitingOn => .on
  | .complete => .cascadeOnDelete

/-- The stage of the key.  A key without its referenced column awaits it, whether it has a table
or not. -/
def stage (k : ForeignKey) : Stage :=
  match k.references, k.table with
  | none, _ => .awaitingReferences
  | some _, none => .awaitingOn
  | some _, some _ => .complete

/-- The clause for deleted rows, if the key has one. -/
def cascadeClause (k : ForeignKey) : String :=
  if k.cascadeOnDelete then " ON DELETE CASCADE" else ""

/-- The text of the key. -/
def render (k : ForeignKey) : Except TableError String :=
  match k.references, k.table with
  | some column, some table =>
    .ok ("CONSTRAINT FK_" ++ k.column ++ " FOREIGN KEY(" ++ k.column ++ ") REFERENCES " ++
      table ++ "(" ++ column ++ ")" ++ k.cascadeClause)
  | _, _ => .error (.incompleteForeignKey k.column k.stage.expected)

end ForeignKey

end Schemata
