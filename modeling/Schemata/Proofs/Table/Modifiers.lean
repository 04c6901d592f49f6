import Schemata.Proofs.Table.History

/-!
# Modifiers of columns

As long as the last fragment is a column, its modifiers succeed and can come in any order.  A flag
is set once it is called for, however often that is, and of several defaults the last one counts.

* `Column.Change` — the modifiers of columns with their arguments;
* `Column.changed` — a column after a list of changes, told without their order;
* `Table.after_changes` — a table after such calls;
* `Column.render_eq_intercalate` — the clauses of a column in their order;
* `Table.column_modifiers_are_order_free` — lists of modifiers against each other.
-/

namespace Schemata

/-! ### Texts in a row -/

/-- With a separator between each two texts, there is one before each text but the first. -/
theorem intercalate_cons (separator text : String) (texts : List String) :
    String.intercalate separator (text :: texts) =
      text ++ String.join (texts.map (separator ++ ·)) := by
  induction texts generalizing text with
  | nil => simp
  | cons text' texts ih => simp [ih, String.append_assoc, String.intercalate_cons_cons]

/-- The separators around a text in the midst of others. -/
theorem intercalate_append_cons (separator text : String) (before after : List String) :
    String.intercalate separator (before ++ text :: after) =
      String.join (before.map (· ++ separator)) ++ text ++
        String.join (after.map (separator ++ ·)) := by
  induction before with
  | nil => simp [intercalate_cons]
  | cons text' before ih =>
    rw [List.cons_append, String.intercalate_cons_of_ne_nil (by simp), ih]
    simp [String.append_assoc]

/-! ### Changes of columns -/

namespace Column

/-- A change that a modifier makes to the last column. -/
inductive Change where
  /-- The column may be without a value. -/
  | nullable
  /-- The column takes the value when a row gives none. -/
  | default (value : ColumnDefault)
  /-- No two rows may agree. -/
  | unique
deriving DecidableEq, Repr

namespace Change

/-- The call that asks for the change. -/
def call : Change → Call
  | nullable => .nullable
  | default value => .default value
  | unique => .unique

/-- The modifier that makes the change. -/
def modifier : Change → Modifier
  | nullable => .nullable
  | default _ => .default
  | unique => .unique

/-- The default that the change sets. -/
def default? : Change → Option ColumnDefault
  | default value => some value
  | _ => none

/-- The column after the change. -/
def apply : Change → Column → Column
  | nullable, c => { c with nullable := true }
  | default value, c => { c with default := some value }
  | unique, c => { c with unique := true }

end Change

/-- The default that a list of changes leaves, which is the last one that it sets. -/
def lastDefault? (ms : List Change) : Option ColumnDefault :=
  (ms.filterMap Change.default?).getLast?

/-- The column after a list of changes. -/
def changed (c : Column) (ms : List Change) : Column :=
  { c with
    nullable := c.nullable || ms.contains .nullable
    default := (lastDefault? ms).or c.default
    unique := c.unique || ms.contains .unique }

theorem changed_nil (c : Column) : c.changed [] = c := by
  simp [changed, lastDefault?]

theorem changed_cons (c : Column) (m : Change) (ms : List Change) :
    c.changed (m :: ms) = (m.apply c).changed ms := by
  cases m with
  | nullable => simp [changed, lastDefault?, Change.apply, Change.default?]
  | unique => simp [changed, lastDefault?, Change.apply, Change.default?]
  | default value =>
    cases h : (ms.filterMap Change.default?).getLast? <;>
      simp [changed, lastDefault?, Change.apply, Change.default?, List.getLast?_cons, h]

/-- Only the set of flags and the last default count. -/
theorem changed_congr {ms ms' : List Change} (hn : .nullable ∈ ms ↔ .nullable ∈ ms')
    (hu : .unique ∈ ms ↔ .unique ∈ ms') (hd : lastDefault? ms = lastDefault? ms') (c : Column) :
    c.changed ms = c.changed ms' := by
  simp [changed, hd, hn, hu]

/-! ### Clauses -/

/-- The clauses of the column in their order. -/
def clauses (c : Column) (d : Dialect) : List String :=
  [c.name, d.typeName c.kind, if c.nullable then "NULL" else "NOT NULL"] ++
    (if c.kind = .id then [d.primaryKeyClause] else []) ++
    (c.default.toList.map fun v => "DEFAULT " ++ v.sql) ++
    (if c.unique then ["UNIQUE"] else [])

/-- The text of a column is its clauses, with a blank between each two. -/
theorem render_eq_intercalate (c : Column) (d : Dialect) :
    c.render d = String.intercalate " " (c.clauses d) := by
  -- every optional clause brings its own blank
  have hnull : c.nullClause = " " ++ if c.nullable then "NULL" else "NOT NULL" := by
    cases h : c.nullable <;> simp [nullClause, h]
  have hkey : c.keyClause d =
      String.join ((if c.kind = .id then [d.primaryKeyClause] else []).map (" " ++ ·)) := by
    cases h : c.kind <;> simp [keyClause, h, ColumnKind.isPrimaryKey]
  have hdefault : c.defaultClause =
      String.join ((c.default.toList.map fun v => "DEFAULT " ++ v.sql).map (" " ++ ·)) := by
    cases h : c.default <;> simp [defaultClause, h, ← String.append_assoc]
  have hunique : c.uniqueClause =
      String.join ((if c.unique then ["UNIQUE"] else []).map (" " ++ ·)) := by
    cases h : c.unique <;> simp [uniqueClause, h]
  rw [clauses, render, hnull, hkey, hdefault, hunique]
  simp only [List.cons_append, List.nil_append, intercalate_cons, List.map_cons, List.map_append,
    String.join_cons, String.join_append, String.append_assoc]

end Column

namespace Table

/-! ### Calls -/

variable {t : Table} {c : Column}

theorem withLast_self {f : Fragment} (h : t.fragments.getLast? = some f) : t.withLast f = t := by
  simp [withLast, List.dropLast_append_getLast? f h]

theorem withLast_withLast (f g : Fragment) : (t.withLast f).withLast g = t.withLast g := by
  simp [withLast]

theorem getLast?_withLast (f : Fragment) : (t.withLast f).fragments.getLast? = some f := by
  simp [withLast]

/-- A modifier of columns changes the last column and nothing else. -/
theorem perform_change (h : t.fragments.getLast? = some (.column c)) (m : Column.Change) :
    t.perform m.call =
      (t.withLast (.column (m.apply c))).accept [.columnModified c.name m.modifier] := by
  cases m <;>
    simp [perform, Column.Change.call, nullable, setDefault, unique, modifyColumn, h,
      Column.Change.apply, Column.Change.modifier]

/-- A list of modifiers changes the last column and nothing else. -/
theorem after_changes (h : t.fragments.getLast? = some (.column c)) (ms : List Column.Change) :
    t.after (ms.map Column.Change.call) = t.withLast (.column (c.changed ms)) := by
  induction ms generalizing t c with
  | nil => rw [Column.changed_nil, withLast_self h]; rfl
  | cons m ms ih =>
    have hnext := ih (getLast?_withLast (t := t) (.column (m.apply c)))
    rw [withLast_withLast] at hnext
    rw [Column.changed_cons, ← hnext, List.map_cons, after, List.foldl_cons, perform_change h]
    rfl

/-- Every call of a list of modifiers succeeds. -/
theorem reply_of_mem_changes (h : t.fragments.getLast? = some (.column c))
    (ms : List Column.Change) :
    ∀ o ∈ t.performAll (ms.map Column.Change.call), o.reply = .ok none := by
  induction ms generalizing t c with
  | nil => simp [performAll]
  | cons m ms ih =>
    rw [List.map_cons, performAll, perform_change h, List.forall_mem_cons]
    exact ⟨rfl, ih (getLast?_withLast _)⟩

/-- The statement of a table has the text of each column in its place. -/
theorem create_eq_ok_of_column {before after : List Fragment} {sql : String}
    (ht : t.fragments = before ++ .column c :: after)
    (h : (t.perform .create).reply = .ok (some sql)) :
    ∃ name us vs, t.name = some name ∧ Fragment.renderAll t.dialect before = .ok us ∧
      Fragment.renderAll t.dialect after = .ok vs ∧
      sql = createSql name (us ++ c.render t.dialect :: vs) := by
  obtain ⟨name, texts, hn, hf, hsql⟩ := create_reply_eq_ok_iff.1 h
  rw [ht] at hf
  obtain ⟨us, ws, hus, hws, rfl⟩ := Fragment.renderAll_append_eq_ok_iff.1 hf
  rw [← List.singleton_append] at hws
  obtain ⟨ws, vs, hcolumn, hvs, rfl⟩ := Fragment.renderAll_append_eq_ok_iff.1 hws
  obtain rfl : ws = [c.render t.dialect] := (Except.ok.inj hcolumn).symm
  exact ⟨name, us, vs, hn, hus, hvs, Option.some.inj hsql⟩

/-- **Modifiers of columns are order-free.**  Calls of `nullable`, `default` and `unique` on a table
whose last fragment is a column succeed, however many there are and in whatever order.  They leave
the column with the flags that were set or called for, with the last default, or the old one if
there is none, and with its name and kind, and leave the rest of the table alone.  So lists of
calls with the same flags and the same last default lead to the same statement.  In both dialects
the column is its name, its type, `NULL` or `NOT NULL`, the clause of a primary key if the kind is
`id`, the default if there is one, and `UNIQUE` if it is unique, and a statement ends in it. -/
theorem column_modifiers_are_order_free (h : t.fragments.getLast? = some (.column c))
    (ms : List Column.Change) :
    (∀ o ∈ t.performAll (ms.map Column.Change.call), o.reply = .ok none) ∧
    t.after (ms.map Column.Change.call) =
      { t with fragments := t.fragments.dropLast ++ [.column { c with
          nullable := c.nullable || ms.contains .nullable
          default := (Column.lastDefault? ms).or c.default
          unique := c.unique || ms.contains .unique }] } ∧
    (∀ ms' : List Column.Change, (.nullable ∈ ms ↔ .nullable ∈ ms') →
      (.unique ∈ ms ↔ .unique ∈ ms') → Column.lastDefault? ms = Column.lastDefault? ms' →
      (t.after (ms.map Column.Change.call)).perform .create =
        (t.after (ms'.map Column.Change.call)).perform .create) ∧
    (∀ d, (c.changed ms).render d = String.intercalate " "
      ([c.name, d.typeName c.kind, if (c.changed ms).nullable then "NULL" else "NOT NULL"] ++
        (if c.kind = .id then [d.primaryKeyClause] else []) ++
        ((c.changed ms).default.toList.map fun v => "DEFAULT " ++ v.sql) ++
        (if (c.changed ms).unique then ["UNIQUE"] else []))) ∧
    ∀ sql, ((t.after (ms.map Column.Change.call)).perform .create).reply = .ok (some sql) →
      ∃ name texts, t.name = some name ∧
        Fragment.renderAll t.dialect t.fragments.dropLast = .ok texts ∧
        sql = createSql name (texts ++ [(c.changed ms).render t.dialect]) := by
  refine ⟨reply_of_mem_changes h ms, after_changes h ms, fun ms' hn hu hd => ?_,
    fun d => (c.changed ms).render_eq_intercalate d, fun sql hsql => ?_⟩
  · rw [after_changes h ms, after_changes h ms', Column.changed_congr hn hu hd]
  · rw [after_changes h ms] at hsql
    have hlast : (t.withLast (.column (c.changed ms))).fragments =
      t.fragments.dropLast ++ .column (c.changed ms) :: [] := rfl
    obtain ⟨name, us, vs, hn, hus, hvs, rfl⟩ := create_eq_ok_of_column hlast hsql
    obtain rfl : vs = [] := (Except.ok.inj hvs).symm
    exact ⟨name, us, hn, hus, rfl⟩

/-- A table that ends in the time of the last change. -/
def stamped : Table :=
  (Table.permissive .postgres).after [.setName "posts", .timestamps]

/-- The changes of the second timestamp, with an earlier default that is lost. -/
theorem changes_of_stamped :
    let ms : List Column.Change :=
      [.default (.integer 0), .unique, .default (.string "never"), .nullable, .unique]
    stamped.after (ms.map Column.Change.call) =
      { stamped with fragments := [.column createdAt, .column { updatedAt with
          nullable := true, default := some (.string "never"), unique := true }] } ∧
    ((stamped.after (ms.map Column.Change.call)).perform .create).reply =
      .ok (some ("CREATE TABLE IF NOT EXISTS posts (create_at timestamp without time zone " ++
        "NOT NULL DEFAULT NOW(), update_at timestamp without time zone NULL " ++
        "DEFAULT 'never' UNIQUE);")) :=
  ⟨(column_modifiers_are_order_free (t := stamped) (c := updatedAt) rfl _).2.1, by decide +kernel⟩

end Table

end Schemata
