import Schemata.Proofs.Table.History
import Schemata.Proofs.Table.Switch

/-!
# Tables in two dialects

The dialect of a table has a part in the statement that creates it, and in nothing else.  Calls on
tables that differ in their dialect are refused for the same causes and do the same to the name and
the fragments.  Two statements that create a table have the same segments, where those of columns
differ at most in the type and in the clause of a primary key.

* `Table.inDialect` — one content in another dialect;
* `Fragment.Twins` — the two texts of a fragment;
* `Table.perform_inDialect`, `Table.create_inDialect` — calls in two dialects;
* `Table.after_inDialect` — runs in two dialects;
* `Outcome.Parallels` — what scripts need of all this.
-/

namespace Schemata

/-! ### Texts of fragments -/

/-- The text of the column around a type and the clause of a primary key. -/
def Column.around (c : Column) (type key : String) : String :=
  c.name ++ " " ++ type ++ c.nullClause ++ key ++ c.defaultClause ++ c.uniqueClause

namespace Fragment

/-- The texts of a fragment in two dialects. -/
inductive Twins (d d' : Dialect) : Fragment → String × String → Prop
  /-- The texts of a column have all but the type and the clause of a primary key in common. -/
  | column (c : Column) :
    Twins d d' (.column c) (c.around (d.typeName c.kind) (c.keyClause d),
      c.around (d'.typeName c.kind) (c.keyClause d'))
  /-- A foreign key has one text. -/
  | foreignKey {k : ForeignKey} {text : String} (h : k.render = .ok text) :
    Twins d d' (.foreignKey k) (text, text)

variable {d d' : Dialect} {f : Fragment} {fs : List Fragment} {texts : List String}

theorem Twins.render {p : String × String} (h : Twins d d' f p) :
    f.render d = .ok p.1 ∧ f.render d' = .ok p.2 := by
  cases h with
  | column c => exact ⟨rfl, rfl⟩
  | foreignKey h => exact ⟨h, h⟩

/-- A text in one dialect has its twin in the other. -/
theorem exists_twins (d' : Dialect) {text : String} (h : f.render d = .ok text) :
    ∃ text', Twins d d' f (text, text') := by
  cases f with
  | column c =>
    cases h
    exact ⟨_, .column c⟩
  | foreignKey k => exact ⟨text, .foreignKey h⟩

theorem renderAll_of_twins {segments : List (String × String)}
    (h : fs.Forall₂ (Twins d d') segments) :
    renderAll d fs = .ok (segments.map Prod.fst) ∧
      renderAll d' fs = .ok (segments.map Prod.snd) := by
  simp only [renderAll_eq_ok_iff, List.forall₂_map_right_iff]
  exact ⟨h.imp fun _ _ ht => ht.render.1, h.imp fun _ _ ht => ht.render.2⟩

/-- The texts of a list of fragments have their twins one by one. -/
theorem exists_forall₂_twins (d' : Dialect) (h : renderAll d fs = .ok texts) :
    ∃ segments, fs.Forall₂ (Twins d d') segments ∧ segments.map Prod.fst = texts := by
  rw [renderAll_eq_ok_iff] at h
  induction h with
  | nil => exact ⟨[], .nil, rfl⟩
  | cons hf _ ih =>
    obtain ⟨text', ht⟩ := exists_twins d' hf
    obtain ⟨segments, hs, rfl⟩ := ih
    exact ⟨_ :: segments, .cons ht hs, rfl⟩

/-- No dialect has a part in whether fragments have texts. -/
theorem renderAll_eq_error_iff_of_dialect (d d' : Dialect) {e : TableError} :
    renderAll d fs = .error e ↔ renderAll d' fs = .error e := by
  rw [renderAll_eq_error_iff, renderAll_eq_error_iff]

end Fragment

/-! ### Calls -/

/-- The table with the same content in another dialect. -/
def Table.inDialect (d : Dialect) (t : Table) : Table :=
  { t with dialect := d }

/-- The outcome with its table in another dialect. -/
def Outcome.inDialect (d : Dialect) (o : Outcome) : Outcome :=
  { o with table := o.table.inDialect d }

namespace Table

variable {t : Table} {c : Call} {d : Dialect} {sql : Option String}

@[simp]
theorem dialect_inDialect (d : Dialect) (t : Table) : (t.inDialect d).dialect = d := rfl

@[simp]
theorem name_inDialect (d : Dialect) (t : Table) : (t.inDialect d).name = t.name := rfl

@[simp]
theorem fragments_inDialect (d : Dialect) (t : Table) :
    (t.inDialect d).fragments = t.fragments := rfl

/-- Every call but the one that creates does the same in two dialects. -/
theorem perform_inDialect (hc : c ≠ .create) (d : Dialect) (t : Table) :
    (t.inDialect d).perform c = (t.perform c).inDialect d :=
  perform_switch (g := fun p => (d, p.2)) hc fun _ _ => rfl

theorem create_eq_error_iff_inDialect {e : TableError} :
    t.create.reply = .error e ↔ (t.inDialect d).create.reply = .error e := by
  rw [create_eq_error_iff, create_eq_error_iff, name_inDialect, fragments_inDialect,
    dialect_inDialect]
  simp only [Fragment.renderAll_eq_error_iff_of_dialect t.dialect d]

/-- Where a table can be created in one dialect it can be in the other, segment by segment. -/
theorem create_inDialect (d : Dialect) (h : t.create.reply = .ok sql) :
    ∃ name segments, t.name = some name ∧
      t.fragments.Forall₂ (Fragment.Twins t.dialect d) segments ∧
      sql = some (createSql name (segments.map Prod.fst)) ∧
      (t.inDialect d).create.reply = .ok (some (createSql name (segments.map Prod.snd))) := by
  obtain ⟨name, texts, hn, hf, rfl⟩ := create_reply_eq_ok_iff.1 h
  obtain ⟨segments, hs, rfl⟩ := Fragment.exists_forall₂_twins d hf
  refine ⟨name, segments, hn, hs, rfl, create_reply_eq_ok_iff.2 ?_⟩
  exact ⟨name, _, hn, (Fragment.renderAll_of_twins hs).2, rfl⟩

/-- A call is refused in two dialects alike. -/
theorem reply_eq_error_iff_inDialect {e : TableError} :
    (t.perform c).reply = .error e ↔ ((t.inDialect d).perform c).reply = .error e := by
  by_cases hc : c = .create
  · subst hc
    exact create_eq_error_iff_inDialect
  · rw [perform_inDialect hc]
    rfl

/-- What a call leaves is the same in two dialects, the dialect apart. -/
theorem table_perform_inDialect (d : Dialect) (t : Table) (c : Call) :
    ((t.inDialect d).perform c).table = (t.perform c).table.inDialect d := by
  by_cases hc : c = .create
  · subst hc
    cases h : t.create.reply with
    | error e =>
      rw [perform, perform, keeps_create e h, keeps_create e (create_eq_error_iff_inDialect.1 h)]
    | ok sql =>
      obtain ⟨name, segments, -, -, -, h'⟩ := create_inDialect d h
      rw [perform, perform, create_of_ok h, create_of_ok h']
      rfl
  · rw [perform_inDialect hc]
    rfl

/-! ### Runs -/

/-- What a run leaves is the same in two dialects, the dialect apart. -/
theorem after_inDialect (d : Dialect) (t : Table) (cs : List Call) :
    (t.inDialect d).after cs = (t.after cs).inDialect d := by
  induction cs using List.reverseRecOn with
  | nil => rfl
  | append_singleton cs c ih =>
    rw [after_append_singleton, after_append_singleton, ih, table_perform_inDialect]

end Table

/-! ### Outcomes apart from their statements -/

/-- The outcomes differ at most in the dialect of the table, in the statement and in the events. -/
structure Outcome.Parallels (d : Dialect) (o o' : Outcome) : Prop where
  /-- The error is the same, and so is whether there is a statement. -/
  reply : o'.reply.map Option.isSome = o.reply.map Option.isSome
  /-- The tables have the same content. -/
  table : o'.table = o.table.inDialect d

theorem Table.perform_parallels (d : Dialect) (t : Table) (c : Call) :
    (t.perform c).Parallels d ((t.inDialect d).perform c) := by
  refine ⟨?_, table_perform_inDialect d t c⟩
  by_cases hc : c = .create
  · subst hc
    cases h : (t.perform .create).reply with
    | error e => rw [reply_eq_error_iff_inDialect.1 h]
    | ok sql =>
      obtain ⟨name, segments, -, -, rfl, h'⟩ := create_inDialect d h
      rw [perform, h']
      rfl
  · rw [perform_inDialect hc]
    rfl

end Schemata
