import Mathlib.Data.List.Forall2
import Schemata.Proofs.Console.Listing
import Schemata.Proofs.Migration.Agenda
import Schemata.Proofs.Text.Json

/-!
# Plans and runs

A plan is made apart from the runs.  It visits the same migrations in the same order, so it comes
to the result of a run whose sink refuses nothing, and the statements that such a sink gets are
those of the plan.

* `Registry.result_visit`, `Registry.sink_visit` — visits against plans, entry by entry;
* `Registry.planEntries_eq_ok_iff`, `Registry.planEntries_eq_error_iff` — what plans say;
* `Registry.events_plan` — what plans tell on the way;
* `Invocation.plan_agrees_with_run` — plans and runs, and the list that shows a plan.
-/

namespace Schemata

/-- The task that goes in the direction. -/
def Direction.task : Direction → Task
  | .up => .migrate
  | .down => .rollback

theorem Direction.run_task (direction : Direction) (r : Registry) (mode : Mode) (k : Sink) :
    direction.task.run r mode k = r.run mode direction k := by
  cases direction <;> rfl

namespace Report

/-- The statement that the report is about. -/
def statement (report : Report) : Statement :=
  { source := report.name, sql := report.sql }

/-- The report of a migration that has a statement. -/
def Tells (mode : Mode) (direction : Direction) (entry : String × Migration)
    (report : Report) : Prop :=
  ∃ sql, entry.2.render mode direction = .ok sql ∧
    report = { name := entry.1, direction, sql }

end Report

namespace Registry

variable {mode : Mode} {direction : Direction} {taken : List Statement}
  {entries : List (String × Migration)} {reports : List Report}

/-! ### Visits without a refusal -/

/-- A visit into a sink that refuses nothing comes to the result of the plan. -/
theorem result_visit (mode : Mode) (direction : Direction) (taken : List Statement)
    (entries : List (String × Migration)) :
    (visit mode direction { taken } entries).result = planEntries mode direction entries := by
  induction entries generalizing taken with
  | nil => rfl
  | cons entry entries ih =>
    obtain ⟨name, m⟩ := entry
    rw [visit, planEntries]
    cases m.render mode direction with
    | error e => rfl
    | ok sql =>
      simp only [Sink.take, ih]
      cases planEntries mode direction entries <;> rfl

/-- The sink gets what is planned, after what it has. -/
theorem sink_visit (h : planEntries mode direction entries = .ok reports) :
    (visit mode direction { taken } entries).sink =
      { taken := taken ++ reports.map Report.statement } := by
  induction entries generalizing taken reports with
  | nil =>
    cases h
    simp [visit]
  | cons entry entries ih =>
    obtain ⟨name, m⟩ := entry
    rw [visit]
    rw [planEntries] at h
    cases hm : m.render mode direction with
    | error e => simp [hm] at h
    | ok sql =>
      cases hrest : planEntries mode direction entries with
      | error e => simp [hm, hrest] at h
      | ok later =>
        simp only [hm, hrest, Except.ok.injEq] at h
        subst h
        simp [Sink.take, ih hrest, Report.statement]

/-- A plan tells what the tables tell in a run, and nothing else. -/
theorem filter_events_visit (mode : Mode) (direction : Direction) (taken : List Statement)
    (entries : List (String × Migration)) :
    (visit mode direction { taken } entries).events.filter Event.ofTable =
      planEvents mode direction entries := by
  have htold (m : Migration) :
      (m.events mode direction).filter Event.ofTable = m.events mode direction := by
    simp [Migration.events, Event.ofTable]
  induction entries generalizing taken with
  | nil => rfl
  | cons entry entries ih =>
    obtain ⟨name, m⟩ := entry
    rw [visit, planEvents]
    cases m.render mode direction with
    | error e => simp [htold]
    | ok sql => simp [Sink.take, htold, ih, Event.ofTable]

theorem events_plan (r : Registry) (mode : Mode) (direction : Direction) (k : Sink)
    (taken : List Statement) :
    (r.plan mode direction k).events =
      (r.run mode direction { taken }).events.filter Event.ofTable := by
  simp [plan, run, Run.after, Event.ofTable, filter_events_visit]

/-! ### What plans say -/

/-- A plan succeeds if every migration has a statement, and reports all of them in order. -/
theorem planEntries_eq_ok_iff :
    planEntries mode direction entries = .ok reports ↔
      entries.Forall₂ (Report.Tells mode direction) reports := by
  induction entries generalizing reports with
  | nil => simp [planEntries, eq_comm]
  | cons entry entries ih =>
    obtain ⟨name, m⟩ := entry
    rw [planEntries, List.forall₂_cons_left_iff]
    cases hm : m.render mode direction with
    | error e => simp [Report.Tells, hm]
    | ok sql =>
      cases hrest : planEntries mode direction entries with
      | error e => simp [← ih, hrest]
      | ok later => simp [Report.Tells, hm, ← ih, hrest, eq_comm]

/-- A plan fails with the first migration that has no statement. -/
theorem planEntries_eq_error_iff {e : TaskError} :
    planEntries mode direction entries = .error e ↔
      ∃ before name m after cause, entries = before ++ (name, m) :: after ∧
        (∀ entry ∈ before, ∃ sql, entry.2.render mode direction = .ok sql) ∧
        m.render mode direction = .error cause ∧ e = .schema name cause := by
  induction entries with
  | nil => simp [planEntries]
  | cons entry entries ih =>
    obtain ⟨name, m⟩ := entry
    cases hm : m.render mode direction with
    | error cause =>
      have hplan : planEntries mode direction ((name, m) :: entries) =
          .error (.schema name cause) := by
        simp [planEntries, hm]
      rw [hplan]
      constructor
      · rintro ⟨⟩
        exact ⟨[], name, m, entries, cause, rfl, by simp, hm, rfl⟩
      · rintro ⟨_ | ⟨entry, before⟩, name', m', after, cause', hsplit, hbefore, hm', rfl⟩
        · cases hsplit
          cases hm.symm.trans hm'
          rfl
        · -- the first entry has no statement, so nothing comes before it
          cases hsplit
          obtain ⟨sql, hsql⟩ := hbefore (name, m) List.mem_cons_self
          cases hm.symm.trans hsql
    | ok sql =>
      have hplan : planEntries mode direction ((name, m) :: entries) = .error e ↔
          planEntries mode direction entries = .error e := by
        cases hrest : planEntries mode direction entries <;> simp [planEntries, hm, hrest]
      rw [hplan, ih]
      constructor
      · rintro ⟨before, name', m', after, cause, rfl, hbefore, hm', he⟩
        exact ⟨(name, m) :: before, name', m', after, cause, rfl,
          List.forall_mem_cons.2 ⟨⟨sql, hm⟩, hbefore⟩, hm', he⟩
      · rintro ⟨_ | ⟨entry, before⟩, name', m', after, cause, hsplit, hbefore, hm', he⟩
        · cases hsplit
          cases hm.symm.trans hm'
        · cases hsplit
          exact ⟨before, name', m', after, cause, rfl, (List.forall_mem_cons.1 hbefore).2, hm', he⟩

end Registry

namespace Invocation

open Registry

/-! ### Lists -/

variable {i : Invocation} {app : Application}

/-- The invocation with another command. -/
def withCommand (i : Invocation) (c : Command) : Invocation :=
  { i with command := some c }

theorem run_withCommand (i : Invocation) (app : Application) (w : World) (c : Command) :
    (i.withCommand c).run app w =
      { i.perform app w c with events := i.openingEvents app c ++ (i.perform app w c).events } :=
  rfl

/-- The list of a plan that succeeds is printed. -/
theorem perform_status_of_ok {reports : List Report} (w : World) (json : Bool)
    (h : planEntries i.mode .up app.registry.entries = .ok reports) :
    (i.perform app w (.status json)).result = .ok () ∧
      (i.perform app w (.status json)).output = Console.printed
        (if json then Console.documentLines reports
        else Console.tableLines i.dialect reports) := by
  have hplan : (app.registry.plan i.mode .up w.sink).result = .ok reports := h
  cases json <;>
    simp [perform, hplan, Console.table_eq_printed, Console.document_eq_printed]

/-- Nothing is printed for a plan that fails. -/
theorem perform_status_of_error {e : TaskError} (w : World) (json : Bool)
    (h : planEntries i.mode .up app.registry.entries = .error e) :
    (i.perform app w (.status json)).result = .error e ∧
      (i.perform app w (.status json)).output = "" := by
  have hplan : (app.registry.plan i.mode .up w.sink).result = .error e := h
  simp [perform, hplan]

theorem perform_status_unchanged (i : Invocation) (app : Application) (w : World) (json : Bool) :
    (i.perform app w (.status json)).sink = w.sink ∧
      (i.perform app w (.status json)).tree = w.tree := by
  rw [perform]
  cases h : (app.registry.plan i.mode .up w.sink).result <;> simp

theorem perform_migrate (i : Invocation) (app : Application) (w : World) :
    (i.perform app w (.migrate false)).result =
        (app.registry.migrate i.mode w.sink).result.map (fun _ => ()) ∧
      (i.perform app w (.migrate false)).sink = (app.registry.migrate i.mode w.sink).sink := by
  simp only [perform, finishRun, Console.seedAfter, Run.andThen]
  cases h : (app.registry.migrate i.mode w.sink).result <;> simp [Except.map]

/-- **A plan is a run that changes nothing.**  It succeeds exactly if the run in its direction does,
into a sink that refuses nothing, and with the same reports in the same order; then the sink gets
the statements of the reports, under the names of their migrations.  It fails exactly if that run
does, and with the same error, which is that of the first migration without a statement.  So the
list of migrations shows what applying them would do, or shows nothing and fails alike: what is
printed are the lines of a table or of a JSON document, with the name and the statement of each
migration in the order of the names, and a string of the document is read back as it was. -/
theorem plan_agrees_with_run :
    (∀ r : Registry, r.inOrder .up = r.entries ∧ r.inOrder .down = r.entries.reverse) ∧
    (∀ (r : Registry) (mode : Mode) (direction : Direction) (k : Sink) (taken : List Statement),
      (r.plan mode direction k).result = (direction.task.run r mode { taken }).result ∧
      (∀ reports, (r.plan mode direction k).result = .ok reports →
        (r.inOrder direction).Forall₂ (Report.Tells mode direction) reports ∧
        (direction.task.run r mode { taken }).sink =
          { taken := taken ++ reports.map Report.statement }) ∧
      (∀ e, (r.plan mode direction k).result = .error e ↔
        ∃ before name m after cause, r.inOrder direction = before ++ (name, m) :: after ∧
          (∀ entry ∈ before, ∃ sql, entry.2.render mode direction = .ok sql) ∧
          m.render mode direction = .error cause ∧ e = .schema name cause)) ∧
    (∀ (i : Invocation) (app : Application) (w : World) (json : Bool) (taken : List Statement),
      let listed := (i.withCommand (.status json)).run app w
      let migrated := (i.withCommand (.migrate false)).run app { w with sink := { taken } }
      listed.result = migrated.result ∧ listed.sink = w.sink ∧ listed.tree = w.tree ∧
      (∀ e, migrated.result = .error e → listed.output = "") ∧
      (migrated.result = .ok () → ∃ reports,
        app.registry.entries.Forall₂ (Report.Tells i.mode .up) reports ∧
        migrated.sink = { taken := taken ++ reports.map Report.statement } ∧
        listed.output = Console.printed
          (if json then Console.documentLines reports
          else Console.tableLines i.dialect reports))) ∧
    ∀ text, Json.readString? (Json.quote text) = some text := by
  refine ⟨fun _ => ⟨rfl, rfl⟩, fun r mode direction k taken => ?_, fun i app w json taken => ?_,
    Json.readString?_quote⟩
  · rw [direction.run_task]
    exact ⟨(result_visit ..).symm, fun reports h => ⟨planEntries_eq_ok_iff.1 h, sink_visit h⟩,
      fun e => planEntries_eq_error_iff⟩
  · obtain ⟨hsink, htree⟩ := perform_status_unchanged i app w json
    obtain ⟨hresult, htaken⟩ := perform_migrate i app { w with sink := { taken } }
    have hrun : (app.registry.migrate i.mode { taken }).result =
        planEntries i.mode .up app.registry.entries := result_visit ..
    simp only [run_withCommand]
    rw [hresult, htaken, hrun]
    cases h : planEntries i.mode .up app.registry.entries with
    | error e =>
      obtain ⟨hfails, hnone⟩ := perform_status_of_error w json h
      exact ⟨hfails, hsink, htree, fun _ _ => hnone, nofun⟩
    | ok reports =>
      obtain ⟨hdone, hlist⟩ := perform_status_of_ok w json h
      exact ⟨hdone, hsink, htree, nofun,
        fun _ => ⟨reports, planEntries_eq_ok_iff.1 h, sink_visit h, hlist⟩⟩

/-- A migration that makes the table of users, or drops it. -/
def users : Migration where
  up := [.call (.setName "users"), .call (.column "email" .text), .call .create]
  down := [.call (.setName "users"), .call .drop]

/-- Migrations that can all be taken back, the second of which cannot be applied. -/
def oneWay : Registry :=
  ofList [
    ("m1_users", users),
    ("m2_posts", {
      up := [.call .create]
      down := [.call (.setName "posts"), .call .drop] })]

/-- A list of what there is to apply. -/
def listing : Invocation where
  driver := "mysql"
  migrationsDir := "database/schema"
  strict := false
  verbose := false
  command := some (.status false)

/-- The backward plan is what is taken back, and there is no list of what can be applied.  The first
migration alone has one, here under a name with quotes. -/
theorem oneWay_planned :
    (Task.rollback.run oneWay { dialect := .generic } {}).sink =
      { taken := [⟨"m2_posts", "DROP TABLE IF EXISTS posts;"⟩,
          ⟨"m1_users", "DROP TABLE IF EXISTS users;"⟩] } ∧
    (listing.run { registry := oneWay } { now := 0, tree := { current := [] } }).result =
      .error (.schema "m2_posts" .missingTableName) ∧
    (listing.run { registry := oneWay } { now := 0, tree := { current := [] } }).output = "" ∧
    ((listing.withCommand (.status true)).run { registry := ofList [("m1_\"users\"", users)] }
        { now := 0, tree := { current := [] } }).output =
      Console.printed ["[",
        "  \x7b",
        "    \"name\": \"m1_\\\"users\\\"\",",
        "    \"direction\": \"up\",",
        "    \"sql\": \"CREATE TABLE IF NOT EXISTS users (email TEXT NOT NULL);\",",
        "    \"elapsed_ms\": 0",
        "  \x7d",
        "]"] := by
  obtain ⟨-, hplan, hlist, -⟩ := plan_agrees_with_run
  obtain ⟨-, hdone, -⟩ := hplan oneWay { dialect := .generic } .down {} []
  obtain ⟨hresult, -, -, hnone, -⟩ := hlist listing { registry := oneWay }
    { now := 0, tree := { current := [] } } false []
  obtain ⟨-, -, -, -, hshown⟩ := hlist listing
    { registry := ofList [("m1_\"users\"", users)] } { now := 0, tree := { current := [] } } true []
  refine ⟨(hdone _ rfl).2, hresult, hnone _ rfl, ?_⟩
  obtain ⟨reports, htells, -, houtput⟩ := hshown rfl
  cases htells with
  | cons htold hrest =>
    obtain ⟨sql, hsql, rfl⟩ := htold
    have hrender : users.render (listing.withCommand (.status true)).mode .up =
        .ok "CREATE TABLE IF NOT EXISTS users (email TEXT NOT NULL);" := rfl
    obtain rfl := Except.ok.inj (hrender.symm.trans hsql)
    cases hrest
    have hname : Json.quote "m1_\"users\"" = "\"m1_\\\"users\\\"\"" := by decide +kernel
    rw [houtput]
    simp only [Console.documentLines, Console.listedLines, Console.reportLines, hname]
    decide +kernel

end Invocation

end Schemata
