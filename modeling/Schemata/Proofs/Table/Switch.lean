import Schemata.Proofs.Table.Refusal

/-!
# Switching dialect and mode

A call looks at the mode of its table for its identifier only, and at the dialect for the statement
that creates the table only.  All other calls, and the same call with an identifier on which the
modes agree, do the same to the content of the table under every dialect and mode.

* `Table.switch`, `Outcome.switch` — one content under another dialect and mode;
* `Table.perform_switch` — the calls that do the same.
-/

namespace Schemata

/-- The table with the same content, its dialect and mode switched. -/
def Table.switch (g : Dialect × Bool → Dialect × Bool) (t : Table) : Table :=
  { t with
    dialect := (g (t.dialect, t.strict)).1
    strict := (g (t.dialect, t.strict)).2 }

/-- The outcome with its table switched. -/
def Outcome.switch (g : Dialect × Bool → Dialect × Bool) (o : Outcome) : Outcome :=
  { o with table := o.table.switch g }

namespace Table

variable {t : Table} {c : Call} {g : Dialect × Bool → Dialect × Bool}

@[simp]
theorem name_switch (g : Dialect × Bool → Dialect × Bool) (t : Table) :
    (t.switch g).name = t.name := rfl

@[simp]
theorem fragments_switch (g : Dialect × Bool → Dialect × Bool) (t : Table) :
    (t.switch g).fragments = t.fragments := rfl

theorem setName_switch {name : String} (h : (t.switch g).check name = t.check name) :
    (t.switch g).setName name = (t.setName name).switch g := by
  unfold setName
  rw [h]
  split
  · rfl
  · split <;> rfl

theorem appendChecked_switch {f : Fragment} (h : (t.switch g).check f.name = t.check f.name) :
    (t.switch g).appendChecked f = (t.appendChecked f).switch g := by
  unfold appendChecked
  rw [h]
  split <;> rfl

theorem modifyColumn_switch (m : Modifier) (change : Column → Column) :
    (t.switch g).modifyColumn m change = (t.modifyColumn m change).switch g := by
  unfold modifyColumn
  rw [fragments_switch]
  split <;> rfl

theorem modifyForeignKey_switch (m : Modifier) (s : ForeignKey.Stage)
    (argument : Except TableError Unit) (change : ForeignKey → ForeignKey) :
    (t.switch g).modifyForeignKey m s argument change =
      (t.modifyForeignKey m s argument change).switch g := by
  unfold modifyForeignKey
  rw [fragments_switch]
  split
  · rfl
  · rfl
  · split
    · cases argument <;> rfl
    · rfl

theorem replaceLast_switch (f : Fragment) :
    (t.switch g).replaceLast f = (t.replaceLast f).switch g := by
  unfold replaceLast
  rw [fragments_switch]
  split <;> rfl

theorem drop_switch : (t.switch g).drop = t.drop.switch g := by
  unfold drop
  rw [name_switch]
  split <;> rfl

/-- A call that does not create, and whose identifier is judged alike, does the same. -/
theorem perform_switch (hc : c ≠ .create)
    (h : ∀ i, c.identifier? = some i → (t.switch g).check i = t.check i) :
    (t.switch g).perform c = (t.perform c).switch g := by
  cases c with
  | setName name => exact setName_switch (h name rfl)
  | column name _ | foreign name => exact appendChecked_switch (h name rfl)
  | reset | timestamps | append _ => rfl
  | nullable | default _ | unique => exact modifyColumn_switch _ _
  | references name | on name =>
    simp only [perform, references, on, h name rfl]
    exact modifyForeignKey_switch _ _ _ _
  | cascadeOnDelete =>
    simp only [perform, cascadeOnDelete]
    exact modifyForeignKey_switch _ _ _ _
  | replaceLast f => exact replaceLast_switch f
  | create => exact absurd rfl hc
  | drop => exact drop_switch

end Table

end Schemata
