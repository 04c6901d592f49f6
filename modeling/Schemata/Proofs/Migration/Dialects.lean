import Schemata.Migration.Run
import Schemata.Proofs.Table.Dialects

/-!
# Plans in two dialects

A script learns of a call whether it was refused, and keeps the statement without looking at it.
So scripts take the same course in two dialects, and plans come to the same migrations or fail at
the same one.

* `Step.run_parallels`, `Script.runFrom_parallels` — scripts in two dialects;
* `Registry.names_planEntries` — plans in two dialects;
* `Registry.dialect_steers_nothing` — calls, runs of calls and plans together.
-/

namespace Schemata

/-! ### Scripts -/

namespace Outcome.Parallels

variable {d : Dialect} {o o' : Outcome}

theorem of_error {e : TableError} (h : o.Parallels d o') (ho : o.reply = .error e) :
    o'.reply = .error e := by
  have hr := h.reply
  rw [ho] at hr
  cases ho' : o'.reply with
  | error e' => simpa [ho', Except.map] using hr
  | ok sql => simp [ho', Except.map] at hr

theorem of_ok {sql : Option String} (h : o.Parallels d o') (ho : o.reply = .ok sql) :
    ∃ sql', o'.reply = .ok sql' ∧ sql'.isSome = sql.isSome := by
  have hr := h.reply
  rw [ho] at hr
  cases ho' : o'.reply with
  | error e' => simp [ho', Except.map] at hr
  | ok sql' => exact ⟨sql', rfl, by simpa [ho', Except.map] using hr⟩

end Outcome.Parallels

mutual

/-- A step takes the same course in two dialects. -/
theorem Step.run_parallels (d : Dialect) (t : Table) (step : Step) :
    (step.run t).Parallels d (step.run (t.inDialect d)) := by
  cases step with
  | call c => exact Table.perform_parallels d t c
  | preview =>
    -- the table is put back, so only the reply of the call matters
    refine ⟨?_, rfl⟩
    simpa only [Step.run] using (Table.perform_parallels d t .create).reply
  | attempt step =>
    have h := Step.run_parallels d t step
    refine ⟨?_, by simpa only [Step.run] using h.table⟩
    cases ho : (step.run t).reply with
    | error e => simp only [Step.run, ho, h.of_error ho]
    | ok sql =>
      obtain ⟨sql', ho', hsome⟩ := h.of_ok ho
      simp only [Step.run, ho, ho', Except.map, hsome]
  | sequence steps => exact Script.runFrom_parallels d t steps rfl

/-- Scripts take the same course in two dialects, whatever the last statements were. -/
theorem Script.runFrom_parallels (d : Dialect) (t : Table) (steps : List Step)
    {sql sql' : Option String} (hsql : sql'.isSome = sql.isSome) :
    (Script.runFrom t sql steps).Parallels d (Script.runFrom (t.inDialect d) sql' steps) := by
  cases steps with
  | nil => exact ⟨by simp [Script.runFrom, Except.map, hsql], rfl⟩
  | cons step rest =>
    have h := Step.run_parallels d t step
    cases ho : (step.run t).reply with
    | error e =>
      have ho' := h.of_error ho
      simpa only [Script.runFrom, ho, ho'] using h
    | ok new =>
      obtain ⟨new', ho', hnew⟩ := h.of_ok ho
      have hlast : (new'.or sql').isSome = (new.or sql).isSome := by
        simp [Option.isSome_or, hnew, hsql]
      have hrest := Script.runFrom_parallels d (step.run t).table rest hlast
      simp only [Script.runFrom, ho, ho', h.table]
      exact ⟨hrest.reply, hrest.table⟩

end

/-- A migration fails in two dialects for the same cause. -/
theorem Migration.render_eq_error_of_dialect {m : Migration} {d d' : Dialect} {strict : Bool}
    {direction : Direction} {e : TableError}
    (h : m.render { dialect := d, strict } direction = .error e) :
    m.render { dialect := d', strict } direction = .error e := by
  have hrun : (m.outcome { dialect := d, strict } direction).Parallels d'
      (m.outcome { dialect := d', strict } direction) :=
    Script.runFrom_parallels d' (Mode.freshTable { dialect := d, strict }) _ rfl
  cases ho : (m.outcome { dialect := d, strict } direction).reply with
  | error e' =>
    have heq : e' = e := by simpa [Migration.render, ho] using h
    simp [Migration.render, hrun.of_error ho, heq]
  | ok sql => simp [Migration.render, ho] at h

namespace Registry

/-! ### Plans -/

/-- A plan names the same migrations in two dialects, or fails with the same error. -/
theorem names_planEntries (d d' : Dialect) (strict : Bool) (direction : Direction)
    (entries : List (String × Migration)) :
    (planEntries { dialect := d', strict } direction entries).map (List.map Report.name) =
      (planEntries { dialect := d, strict } direction entries).map (List.map Report.name) := by
  induction entries with
  | nil => rfl
  | cons entry entries ih =>
    obtain ⟨name, m⟩ := entry
    rw [planEntries, planEntries]
    cases hm : m.render { dialect := d, strict } direction with
    | error e =>
      rw [Migration.render_eq_error_of_dialect hm]
    | ok sql =>
      cases hm' : m.render { dialect := d', strict } direction with
      | error e => cases hm.symm.trans (Migration.render_eq_error_of_dialect hm')
      | ok sql' =>
        cases hrest : planEntries { dialect := d, strict } direction entries <;>
          cases hrest' : planEntries { dialect := d', strict } direction entries <;>
          simp_all [Except.map]

/-- **The dialect steers nothing.**  At every point of a run of calls, two tables that differed in
their dialect at first differ in nothing else.  Each call is refused by both for the same cause or
by neither; it gives the same, unless it creates the table.  Then both statements have the name of
the table and one segment for each fragment, and the two segments of a fragment are its texts in
the two dialects: a foreign key has one, and those of a column differ at most in the type and the
clause of a primary key.  So a plan comes to the same migrations in both dialects, or fails with
the same error. -/
theorem dialect_steers_nothing :
    (∀ (t : Table) (d : Dialect) (before : List Call) (c : Call),
      let here := t.after before
      let there := (t.inDialect d).after before
      there = here.inDialect d ∧
      (∀ e, (here.perform c).reply = .error e ↔ (there.perform c).reply = .error e) ∧
      (c ≠ .create → there.perform c = (here.perform c).inDialect d) ∧
      (∀ sql, c = .create → (here.perform c).reply = .ok sql → ∃ name segments,
        here.name = some name ∧ here.fragments.Forall₂ (Fragment.Twins t.dialect d) segments ∧
        sql = some (Table.createSql name (segments.map Prod.fst)) ∧
        (there.perform c).reply = .ok (some (Table.createSql name (segments.map Prod.snd))))) ∧
    (∀ (r : Registry) (d d' : Dialect) (strict : Bool) (direction : Direction) (k k' : Sink),
      (r.plan { dialect := d', strict } direction k').result.map (List.map Report.name) =
        (r.plan { dialect := d, strict } direction k).result.map (List.map Report.name)) := by
  refine ⟨fun t d before c => ?_, fun r d d' strict direction k k' =>
    names_planEntries d d' strict direction _⟩
  simp only [Table.after_inDialect]
  refine ⟨trivial, fun e => Table.reply_eq_error_iff_inDialect,
    fun hc => Table.perform_inDialect hc d _, fun sql hc h => ?_⟩
  subst hc
  rw [← (Table.mode_after t before).1]
  exact Table.create_inDialect d h

/-- The calls that name a table and give it a key and a foreign key. -/
def keyedCalls : List Call :=
  [.setName "posts", .defaultId, .foreign "user_id", .references "id", .on "users"]

/-- The key has another type and another clause on Postgres, the foreign key is the same. -/
theorem keyed_in_both :
    (((Table.permissive .generic).after keyedCalls).perform .create).reply =
      .ok (some ("CREATE TABLE IF NOT EXISTS posts (id INTEGER NOT NULL PRIMARY KEY " ++
        "AUTO_INCREMENT, CONSTRAINT FK_user_id FOREIGN KEY(user_id) REFERENCES users(id));")) ∧
    (((Table.permissive .postgres).after keyedCalls).perform .create).reply =
      .ok (some ("CREATE TABLE IF NOT EXISTS posts (id SERIAL NOT NULL PRIMARY KEY, " ++
        "CONSTRAINT FK_user_id FOREIGN KEY(user_id) REFERENCES users(id));")) := by
  obtain ⟨hcalls, -⟩ := dialect_steers_nothing
  obtain ⟨-, -, -, hcreate⟩ := hcalls (.permissive .generic) .postgres keyedCalls .create
  obtain ⟨name, segments, hn, hs, hhere, hthere⟩ := hcreate _ rfl rfl
  obtain rfl : "posts" = name := Option.some.inj hn
  have hfragments : ((Table.permissive .generic).after keyedCalls).fragments =
      [.column { name := "id", kind := .id },
        .foreignKey { column := "user_id", references := some "id", table := some "users" }] := rfl
  rw [hfragments] at hs
  rcases hs with _ | ⟨hid, _ | ⟨hkey, ⟨⟩⟩⟩
  cases hid
  cases hkey with
  | foreignKey hk =>
    cases hk
    exact ⟨rfl, hthere⟩

end Registry

end Schemata
