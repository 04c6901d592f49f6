import Schemata.TaskError
import Schemata.Text.Diagnostic

/-!
# Registries

A registry holds migrations under distinct names and visits them in the order of the names.
Names start with a time of creation, so this is the order in which the migrations were made.

* `Registry` — the migrations, with the order of their names as part of the type;
* `Registry.register` — adds a migration, and refuses a name that is taken;
* `Registry.inOrder` — the migrations as a run visits them.

Texts are compared by their code points, which is also the order of their UTF-8 bytes.
-/

namespace Schemata

/-- Migrations under ascending names. -/
structure Registry where
  /-- The names with their migrations. -/
  entries : List (String × Migration) := []
  /-- The names ascend. -/
  ascending : entries.Pairwise (fun a b => a.1 < b.1) := by simp

namespace Registry

/-! ### Insertion -/

/-- The entries with one more, put before the first larger name. -/
def insertEntry (e : String × Migration) :
    List (String × Migration) → List (String × Migration)
  | [] => [e]
  | x :: xs => if e.1 < x.1 then e :: x :: xs else x :: insertEntry e xs

theorem mem_insertEntry {e x : String × Migration} {xs : List (String × Migration)} :
    x ∈ insertEntry e xs ↔ x = e ∨ x ∈ xs := by
  induction xs with
  | nil => simp [insertEntry]
  | cons y ys ih =>
    unfold insertEntry
    split
    · simp
    · simp only [List.mem_cons, ih]
      constructor <;> rintro (h | h | h) <;> simp [h]

theorem lt_of_not_lt_of_ne {a b : String} (h : ¬a < b) (hne : a ≠ b) : b < a := by
  rcases String.le_total b a with hba | hab
  · exact String.not_le.1 fun hab => hne (String.le_antisymm hab hba)
  · exact absurd (String.le_antisymm hab (String.not_lt.1 h)) hne

theorem pairwise_insertEntry {e : String × Migration} {xs : List (String × Migration)}
    (h : xs.Pairwise fun a b => a.1 < b.1) (hne : ∀ x ∈ xs, e.1 ≠ x.1) :
    (insertEntry e xs).Pairwise fun a b => a.1 < b.1 := by
  induction xs with
  | nil => simp [insertEntry]
  | cons x xs ih =>
    have hx := List.pairwise_cons.1 h
    unfold insertEntry
    split
    next hlt =>
      refine List.pairwise_cons.2 ⟨fun y hy => ?_, h⟩
      rcases List.mem_cons.1 hy with rfl | hy
      · exact hlt
      · exact String.lt_trans hlt (hx.1 y hy)
    next hlt =>
      refine List.pairwise_cons.2 ⟨fun y hy => ?_, ih hx.2 fun y hy => hne y (by simp [hy])⟩
      rcases mem_insertEntry.1 hy with rfl | hy
      · exact lt_of_not_lt_of_ne hlt (hne x (by simp))
      · exact hx.1 y hy

/-! ### Registration -/

/-- The registry without migrations. -/
def empty : Registry := {}

/-- The names in ascending order. -/
def names (r : Registry) : List String :=
  r.entries.map (·.1)

/-- The number of migrations. -/
def size (r : Registry) : Nat :=
  r.entries.length

/-- Whether there is no migration. -/
def isEmpty (r : Registry) : Bool :=
  r.entries.isEmpty

/-- The registry with one more migration, unless the name is taken. -/
def register (r : Registry) (name : String) (m : Migration) : Except TaskError Registry :=
  if h : name ∈ r.names then .error (.duplicateMigration name)
  else
    .ok {
      entries := insertEntry (name, m) r.entries
      ascending := pairwise_insertEntry r.ascending fun x hx hname =>
        h (List.mem_map.2 ⟨x, hx, hname.symm⟩) }

/-- The registry of the migrations in a list.  Of two with one name the first is kept. -/
def ofList (ms : List (String × Migration)) : Registry :=
  ms.foldl (fun r (name, m) => (r.register name m).toOption.getD r) empty

/-! ### Visits -/

/-- The migrations as a run in the direction visits them. -/
def inOrder (r : Registry) : Direction → List (String × Migration)
  | .up => r.entries
  | .down => r.entries.reverse

theorem mem_inOrder {r : Registry} {direction : Direction} {entry : String × Migration} :
    entry ∈ r.inOrder direction ↔ entry ∈ r.entries := by
  cases direction <;> simp [inOrder]

/-- The registry in a diagnostic, which lists the names. -/
def describe (r : Registry) : String :=
  "MigrationSet \x7b migrations: [" ++
    String.intercalate ", " (r.names.map Diagnostic.quote) ++ "] \x7d"

end Registry

end Schemata
