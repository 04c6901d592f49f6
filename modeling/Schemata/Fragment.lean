import Schemata.Column.Basic
import Schemata.ForeignKey

/-!
# Fragments

A table definition is a sequence of fragments, each a column or a foreign key.
-/

namespace Schemata

/-- One segment of a table definition. -/
inductive Fragment where
  /-- A column. -/
  | column (c : Column)
  /-- A foreign key. -/
  | foreignKey (k : ForeignKey)
deriving DecidableEq, Repr

namespace Fragment

/-- The column that the fragment is about. -/
def name : Fragment → String
  | .column c => c.name
  | .foreignKey k => k.column

/-- The text of the fragment in a dialect. -/
def render (d : Dialect) : Fragment → Except TableError String
  | .column c => .ok (c.render d)
  | .foreignKey k => k.render

/-- The texts of the fragments in order, or the error of the first that has none. -/
def renderAll (d : Dialect) : List Fragment → Except TableError (List String)
  | [] => .ok []
  | f :: fs =>
    match f.render d with
    | .error e => .error e
    | .ok text =>
      match renderAll d fs with
      | .error e => .error e
      | .ok texts => .ok (text :: texts)

end Fragment

end Schemata
