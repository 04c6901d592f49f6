import Schemata.Migration.Run
import Schemata.Proofs.Table.Strictness

/-!
# Strict plans

A script that succeeds on a strict table, with no failure on the way that nobody heard of, has not
met an invalid identifier.  So it does the same on a permissive table, step by step, and a plan
that the strict mode accepts is the plan of the permissive mode.

* `Step.Swallows`, `Script.Swallows` — a failure on the way is dropped;
* `Script.run_inMode` — scripts in the two modes;
* `Registry.strict_filters_permissive` — calls, sequences of calls and plans together.
-/

namespace Schemata

/-! ### Swallowed failures -/

mutual

/-- The step drops a failure that it meets on the table. -/
def Step.Swallows (t : Table) : Step → Prop
  | .call _ => False
  | .preview => False
  | .attempt step => (∃ e, (step.run t).reply = .error e) ∨ step.Swallows t
  | .sequence steps => Script.Swallows t steps

/-- One of the steps that are reached drops a failure. -/
def Script.Swallows (t : Table) : Script → Prop
  | [] => False
  | step :: rest =>
    step.Swallows t ∨
      (∃ sql, (step.run t).reply = .ok sql) ∧ Script.Swallows (step.run t).table rest

end

/-! ### Scripts in two modes -/

mutual

/-- A step that succeeds on the strict table and drops no failure does the same on the other. -/
theorem Step.run_inMode {t : Table} {sql : Option String} (step : Step)
    (h : ¬step.Swallows (t.inMode true)) (hr : (step.run (t.inMode true)).reply = .ok sql) :
    step.run (t.inMode true) = (step.run t).inMode true := by
  cases step with
  | call c =>
    simp only [Step.run] at hr ⊢
    exact Table.perform_inMode fun i f hi => nomatch hr.symm.trans hi
  | preview =>
    simp only [Step.run, Table.perform, Table.create_inMode]
    rfl
  | attempt step =>
    -- an attempt succeeds in any case, but here the step inside it does as well
    simp only [Step.Swallows, not_or] at h
    cases hs : (step.run (t.inMode true)).reply with
    | error e => exact absurd ⟨e, hs⟩ h.1
    | ok sql' =>
      have hstep := Step.run_inMode step h.2 hs
      simp only [Step.run, hstep]
      rfl
  | sequence steps =>
    simp only [Step.run, Step.Swallows] at h hr ⊢
    exact Script.runFrom_inMode steps h hr

theorem Script.runFrom_inMode {t : Table} {sql new : Option String} (steps : List Step)
    (h : ¬Script.Swallows (t.inMode true) steps)
    (hr : (Script.runFrom (t.inMode true) sql steps).reply = .ok new) :
    Script.runFrom (t.inMode true) sql steps = (Script.runFrom t sql steps).inMode true := by
  cases steps with
  | nil => rfl
  | cons step rest =>
    simp only [Script.Swallows, not_or, not_and] at h
    cases hs : (step.run (t.inMode true)).reply with
    | error e =>
      rw [Script.runFrom, hs] at hr
      cases hs.symm.trans hr
    | ok sql' =>
      have hstep := Step.run_inMode step h.1 hs
      have hrest := h.2 ⟨sql', hs⟩
      have hreply : (step.run t).reply = .ok sql' := by rwa [hstep] at hs
      simp only [Script.runFrom, hs] at hr
      simp only [Script.runFrom, hs, hreply]
      rw [hstep, Outcome.table_inMode] at hrest hr ⊢
      rw [Script.runFrom_inMode rest hrest hr]
      rfl

end

/-- A migration that succeeds strictly and drops no failure has the same statement permissively. -/
theorem Migration.render_permissive {m : Migration} {d : Dialect} {direction : Direction}
    {sql : String}
    (h : ¬(m.script direction).Swallows (Mode.freshTable { dialect := d, strict := true }))
    (hr : m.render { dialect := d, strict := true } direction = .ok sql) :
    m.render { dialect := d, strict := false } direction = .ok sql := by
  cases ho : (m.outcome { dialect := d, strict := true } direction).reply with
  | error e => simp [Migration.render, ho] at hr
  | ok new =>
    have hsame : m.outcome { dialect := d, strict := true } direction =
        (m.outcome { dialect := d, strict := false } direction).inMode true :=
      Script.runFrom_inMode (t := Mode.freshTable { dialect := d, strict := false }) _ h ho
    rw [Migration.render, hsame] at hr
    exact hr

namespace Registry

/-! ### Plans -/

/-- A plan that strict migrations make is the plan of the permissive ones. -/
theorem planEntries_permissive {d : Dialect} {direction : Direction}
    {entries : List (String × Migration)} {reports : List Report}
    (h : ∀ entry ∈ entries,
      ¬(entry.2.script direction).Swallows (Mode.freshTable { dialect := d, strict := true }))
    (hr : planEntries { dialect := d, strict := true } direction entries = .ok reports) :
    planEntries { dialect := d, strict := false } direction entries = .ok reports := by
  induction entries generalizing reports with
  | nil => exact hr
  | cons entry entries ih =>
    obtain ⟨name, m⟩ := entry
    rw [List.forall_mem_cons] at h
    cases hm : m.render { dialect := d, strict := true } direction with
    | error e => simp [planEntries, hm] at hr
    | ok sql =>
      cases hrest : planEntries { dialect := d, strict := true } direction entries with
      | error e => simp [planEntries, hm, hrest] at hr
      | ok later =>
        have hm' := Migration.render_permissive h.1 hm
        simp only [planEntries, hm, hrest] at hr
        simp only [planEntries, hm', ih h.2 hrest, hr]

/-- **Strict mode is a filter.**  On one content a call that the permissive table refuses is refused
by the strict one for the same cause.  A call that the permissive table accepts does the same on
the strict one, unless its identifier is not valid; then the strict table tells so and keeps its
content.  So sequences of calls in which no identifier is refused have the same outcomes, and a
plan that strict migrations make without dropping a failure is the permissive plan. -/
theorem strict_filters_permissive :
    (∀ (t : Table) (c : Call) (e : TableError), ((t.inMode false).perform c).reply = .error e →
      ((t.inMode true).perform c).reply = .error e) ∧
    (∀ (t : Table) (c : Call) (sql : Option String),
      ((t.inMode false).perform c).reply = .ok sql →
        (¬c.Offends ∧ ((t.inMode true).perform c).reply = .ok sql ∧
          ((t.inMode true).perform c).table = ((t.inMode false).perform c).table.inMode true) ∨
        (c.Offends ∧ (∃ i f, c.identifier? = some i ∧
          ((t.inMode true).perform c).reply = .error (.invalidIdentifier i f)) ∧
          ((t.inMode true).perform c).table = t.inMode true)) ∧
    (∀ (t : Table) (cs : List Call),
      (∀ o ∈ (t.inMode true).performAll cs, ∀ i f, o.reply ≠ .error (.invalidIdentifier i f)) →
        (t.inMode true).performAll cs =
          ((t.inMode false).performAll cs).map (Outcome.inMode true)) ∧
    (∀ (r : Registry) (d : Dialect) (direction : Direction) (sink : Sink) (reports : List Report),
      (∀ entry ∈ r.entries,
        ¬(entry.2.script direction).Swallows (Mode.freshTable { dialect := d, strict := true })) →
      (r.plan { dialect := d, strict := true } direction sink).result = .ok reports →
        (r.plan { dialect := d, strict := false } direction sink).result = .ok reports) := by
  refine ⟨fun _ _ _ => Table.strict_of_permissive_error,
    fun _ _ _ => Table.strict_of_permissive_ok, fun t cs h => ?_,
    fun r d direction sink reports h => ?_⟩
  · exact Table.performAll_inMode (t := t.inMode false) h
  · exact planEntries_permissive fun entry he => h entry (mem_inOrder.1 he)

/-- A migration that tries to add a column and goes on if it cannot. -/
def cautious : Migration where
  up := [.call (.setName "posts"), .attempt (.call (.column "title" .text)), .call .create]
  down := [.call (.setName "posts"), .call .drop]

/-- Nothing is dropped in its plan, as the column is added. -/
theorem plan_cautious :
    ((ofList [("m1_posts", cautious)]).plan
      { dialect := .generic, strict := false } .up {}).result =
      .ok [{ name := "m1_posts", direction := .up,
             sql := "CREATE TABLE IF NOT EXISTS posts (title TEXT NOT NULL);" }] := by
  obtain ⟨-, -, -, hplan⟩ := strict_filters_permissive
  refine hplan _ .generic .up {} _ (fun entry he => ?_) rfl
  have he' : entry ∈ [("m1_posts", cautious)] := he
  obtain rfl := List.mem_singleton.1 he'
  rintro (h | ⟨-, h | ⟨-, h | ⟨-, h⟩⟩⟩)
  · exact h
  · rcases h with ⟨e, he⟩ | h
    · have hok : ((Step.call (.column "title" .text)).run
          { dialect := .generic, strict := true, name := some "posts" }).reply = .ok none := rfl
      cases hok.symm.trans he
    · exact h
  · exact h
  · exact h

end Registry

end Schemata
