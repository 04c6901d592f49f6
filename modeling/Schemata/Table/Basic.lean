import Schemata.Fragment

/-!
# Tables under construction

A table collects fragments in order.  A column or a foreign key is added at the end, a modifier
changes the fragment added last, and the statement of the table takes all fragments and
leaves none.

* `Table` — the dialect, the mode, the name and the pending fragments;
* `Outcome` — what a call answers, the table that it leaves, and what it tells about itself;
* `Table.refuse`, `Table.accept`, `Table.answer` — the three kinds of outcome.

A refused call leaves the table as it was.
-/

namespace Schemata

/-- A table under construction. -/
structure Table where
  /-- The dialect of its statements. -/
  dialect : Dialect
  /-- Whether only valid identifiers are accepted. -/
  strict : Bool := false
  /-- The name, once it is set. -/
  name : Option String := none
  /-- The fragments since the last statement. -/
  fragments : List Fragment := []
deriving DecidableEq, Repr

/-- What a call on a table tells about itself. -/
inductive TableEvent where
  /-- A fragment was added at the end. -/
  | appended (fragment : String)
  /-- The column added last was changed. -/
  | columnModified (column : String) (modifier : Modifier)
  /-- The foreign key added last is at the stage of the modifier. -/
  | foreignKeyModified (column : String) (modifier : Modifier)
  /-- The statement of the table was written. -/
  | created (table : String) (dialect : Dialect) (fragments : Nat)
deriving DecidableEq, Repr

/-- The outcome of a call on a table. -/
structure Outcome where
  /-- The error, or the statement if the call gives one. -/
  reply : Except TableError (Option String)
  /-- The table after the call. -/
  table : Table
  /-- The events of the call in order. -/
  events : List TableEvent := []

namespace Table

/-! ### Constructors -/

/-- A table that accepts every identifier. -/
def permissive (d : Dialect) : Table :=
  { dialect := d }

/-- A table that accepts valid identifiers only. -/
def checked (d : Dialect) : Table :=
  { dialect := d, strict := true }

/-- A table that accepts every identifier, for the dialect of a driver. -/
def ofDriver (driver : String) : Table :=
  permissive (.ofDriver driver)

variable (t : Table)

/-! ### Outcomes -/

/-- The call fails and changes nothing. -/
def refuse (e : TableError) : Outcome :=
  { reply := .error e, table := t }

/-- The call succeeds without a statement and leaves `t`. -/
def accept (events : List TableEvent := []) : Outcome :=
  { reply := .ok none, table := t, events }

/-- The call gives a statement and leaves `t`. -/
def answer (sql : String) (events : List TableEvent := []) : Outcome :=
  { reply := .ok (some sql), table := t, events }

/-- Accepts the identifiers that the mode of the table accepts. -/
def check (identifier : String) : Except TableError Unit :=
  if t.strict then Identifier.validate identifier else .ok ()

/-! ### The name -/

/-- Names the table. -/
def setName (name : String) : Outcome :=
  if name = "" then t.refuse .emptyTableName
  else
    match t.check name with
    | .error e => t.refuse e
    | .ok () => { t with name := some name }.accept

/-- Forgets the name and the fragments. -/
def reset : Outcome :=
  { t with name := none, fragments := [] }.accept

/-! ### Adding fragments -/

/-- The table with a fragment added at the end. -/
def push (f : Fragment) : Table :=
  { t with fragments := t.fragments ++ [f] }

/-- Adds a fragment. -/
def append (f : Fragment) : Outcome :=
  (t.push f).accept [.appended f.name]

/-- Adds a fragment if the mode accepts its column. -/
def appendChecked (f : Fragment) : Outcome :=
  match t.check f.name with
  | .error e => t.refuse e
  | .ok () => t.append f

/-- Adds a column that must have a value. -/
def column (name : String) (kind : ColumnKind) : Outcome :=
  t.appendChecked (.column { name, kind })

/-- Starts a foreign key on a local column. -/
def foreign (column : String) : Outcome :=
  t.appendChecked (.foreignKey { column })

/-- The column of the time at which a row was made. -/
def createdAt : Column :=
  { name := "create_at", kind := .createdAt, default := some (.expression "NOW()") }

/-- The column of the time at which a row was last changed. -/
def updatedAt : Column :=
  { name := "update_at", kind := .updatedAt, default := some (.expression "NOW()") }

/-- Adds the pair of timestamp columns. -/
def timestamps : Outcome :=
  ((t.push (.column createdAt)).push (.column updatedAt)).accept
    [.appended createdAt.name, .appended updatedAt.name]

/-! ### Changing the last fragment -/

/-- The table with another last fragment. -/
def withLast (f : Fragment) : Table :=
  { t with fragments := t.fragments.dropLast ++ [f] }

/-- Puts a fragment in place of the last. -/
def replaceLast (f : Fragment) : Outcome :=
  match t.fragments.getLast? with
  | none => t.refuse (.emptySequence .setLast)
  | some _ => (t.withLast f).accept

/-- Changes the last fragment if it is a column. -/
def modifyColumn (m : Modifier) (change : Column → Column) : Outcome :=
  match t.fragments.getLast? with
  | none => t.refuse (.emptySequence m)
  | some (.foreignKey k) => t.refuse (.notAColumn m k.column)
  | some (.column c) => (t.withLast (.column (change c))).accept [.columnModified c.name m]

/-- Changes the last fragment if it is a foreign key at the given stage and the argument of the
change is accepted.  The event tells that the stage was right. -/
def modifyForeignKey (m : Modifier) (stage : ForeignKey.Stage) (argument : Except TableError Unit)
    (change : ForeignKey → ForeignKey) : Outcome :=
  match t.fragments.getLast? with
  | none => t.refuse (.emptySequence m)
  | some (.column c) => t.refuse (.misplacedForeignKeyModifier m c.name)
  | some (.foreignKey k) =>
    if k.stage = stage then
      let events := [.foreignKeyModified k.column m]
      match argument with
      | .error e => { t.refuse e with events }
      | .ok () => (t.withLast (.foreignKey (change k))).accept events
    else t.refuse (.foreignKeyOutOfOrder m k.stage.expected k.column)

/-- Makes the last column nullable. -/
def nullable : Outcome :=
  t.modifyColumn .nullable ({ · with nullable := true })

/-- Sets the default of the last column. -/
def setDefault (value : ColumnDefault) : Outcome :=
  t.modifyColumn .default ({ · with default := some value })

/-- Makes the last column unique. -/
def unique : Outcome :=
  t.modifyColumn .unique ({ · with unique := true })

/-- Sets the referenced column of the last foreign key. -/
def references (column : String) : Outcome :=
  t.modifyForeignKey .references .awaitingReferences (t.check column)
    ({ · with references := some column })

/-- Sets the referenced table of the last foreign key. -/
def on (table : String) : Outcome :=
  t.modifyForeignKey .on .awaitingOn (t.check table) ({ · with table := some table })

/-- Lets the last foreign key delete with the row that it refers to. -/
def cascadeOnDelete : Outcome :=
  t.modifyForeignKey .cascadeOnDelete .complete (.ok ()) ({ · with cascadeOnDelete := true })

/-! ### Statements -/

/-- The statement that creates a table from the texts of its fragments. -/
def createSql (name : String) (texts : List String) : String :=
  "CREATE TABLE IF NOT EXISTS " ++ name ++ " (" ++ String.intercalate ", " texts ++ ");"

/-- The statement that drops a table. -/
def dropSql (name : String) : String :=
  "DROP TABLE IF EXISTS " ++ name ++ ";"

/-- Gives the statement that creates the table and leaves no fragments.  The name is kept. -/
def create : Outcome :=
  match t.name with
  | none => t.refuse .missingTableName
  | some name =>
    match Fragment.renderAll t.dialect t.fragments with
    | .error e => t.refuse e
    | .ok texts =>
      { t with fragments := [] }.answer (createSql name texts)
        [.created name t.dialect t.fragments.length]

/-- Gives the statement that drops the table. -/
def drop : Outcome :=
  match t.name with
  | none => t.refuse .missingTableName
  | some name => t.answer (dropSql name)

end Table

end Schemata
