import Schemata.Proofs.Migration.Planning
import Schemata.Proofs.Migration.Seeding

/-!
# Phases and footprints

An invocation may work on migrations and may seed.  Both phases share one sink, which counts the
statements of both, and the second begins only where the first is through.  What an invocation does
not work on it neither changes nor looks at.

* `Command.runner`, `Command.agenda` — the first phase of a command;
* `Invocation.finishAfter` — a finish after both phases, in which only the second one seeds;
* `Invocation.run_of_error`, `Invocation.run_of_ok_of_seeds` — what the first phase decides;
* `Invocation.run_of_not_usesSink`, `Invocation.run_of_not_usesFiles` — footprints;
* `Invocation.phases_and_footprints` — all invocations, applications, worlds and refusals.
-/

namespace Schemata

/-! ### Commands -/

namespace Command

/-- What the command does with migrations, if anything. -/
def task? : Command → Option Task
  | .migrate _ => some .migrate
  | .rollback => some .rollback
  | .refresh _ => some .refresh
  | .seed | .status _ | .make _ _ _ => none

/-- Whether the command seeds in the end. -/
def seeds : Command → Bool
  | .migrate wanted | .refresh wanted => wanted
  | .seed => true
  | .rollback | .status _ | .make _ _ _ => false

/-- Whether the command works on the sink. -/
def usesSink : Command → Bool
  | .status _ | .make _ _ _ => false
  | _ => true

/-- Whether the command works on files. -/
def usesFiles : Command → Bool
  | .make _ _ _ => true
  | _ => false

/-- Whether the command prints something itself. -/
def prints : Command → Bool
  | .status _ => true
  | _ => false

/-- The first phase of the command. -/
def runner (c : Command) (r : Registry) (mode : Mode) (k : Sink) : Run (List Report) :=
  match c.task? with
  | some task => task.run r mode k
  | none => { result := .ok [], sink := k, events := [] }

/-- The agenda of the first phase. -/
def agenda (c : Command) (r : Registry) (mode : Mode) : List Item :=
  match c.task? with
  | some task => task.agenda r mode
  | none => []

variable {c : Command} {r : Registry} {mode : Mode} {k : Sink}

theorem runner_follows (c : Command) (r : Registry) (mode : Mode) (hk : k.IsOpen) :
    (c.runner r mode k).Follows k (c.agenda r mode) := by
  unfold runner agenda
  cases c.task? with
  | some task => exact task.follows_agenda r mode hk
  | none => exact ⟨by simp [Agenda.acceptedFrom], fun _ => rfl, by simp⟩

theorem runner_unseeded (c : Command) (r : Registry) (mode : Mode) (k : Sink) :
    (c.runner r mode k).Unseeded := by
  unfold runner
  cases c.task? with
  | some task => exact task.run_unseeded r mode k
  | none => exact List.forall_mem_nil _

/-- The first phase with a sink that is empty. -/
theorem runner_empty (c : Command) (r : Registry) (mode : Mode) (refusal : Option Refusal) :
    let items := c.agenda r mode
    let accepted := Agenda.accepted refusal items
    let first := c.runner r mode { refusal }
    first.sink = { taken := accepted.filterMap Item.statement?, refusal } ∧
    (accepted = items → first.result = .ok (items.filterMap Item.report?)) ∧
    (accepted ≠ items → ∃ item rest e, items = accepted ++ item :: rest ∧
      item.Fails refusal accepted.length e ∧ first.result = .error e) := by
  intro items accepted first
  have h : first.Follows { refusal } items :=
    runner_follows c r mode (Sink.isOpen_of_taken_eq_nil rfl)
  refine ⟨h.sink, h.done, fun hne => ?_⟩
  obtain ⟨item, rest, hrest⟩ := (Agenda.eq_self_or_exists_cons refusal 0 items).resolve_left hne
  obtain ⟨e, he, hfails⟩ := h.stopped item rest hrest
  rw [List.length_nil, Nat.zero_add] at hfails
  exact ⟨item, rest, e, hrest, hfails, he⟩

end Command

/-! ### Phases -/

namespace Invocation

variable {i : Invocation} {app : Application} {w : World} {c : Command} {k : Sink}

theorem openingEvents_unseeded (i : Invocation) (app : Application) (c : Command) :
    ∀ e ∈ i.openingEvents app c, e.ofSeeding = false := by
  unfold openingEvents driverEvents
  refine List.forall_mem_append.2 ⟨?_, ?_⟩
  · split <;> simp [Event.ofSeeding]
  · split <;> simp [Event.ofSeeding]

/-- A command that works on the sink seeds, if asked to, after its first phase. -/
theorem perform_of_usesSink (i : Invocation) (app : Application) (w : World)
    (hc : c.usesSink = true) : i.perform app w c = finishRun w
      (Console.seedAfter app i.dialect c.seeds (c.runner app.registry i.mode w.sink)) := by
  cases c with
  | migrate wanted => rfl
  | rollback => rfl
  | refresh wanted => rfl
  | seed => rfl
  | status json => cases hc
  | make kind name dir => cases hc

/-- The finish when a run comes after the first phase of the command. -/
def finishAfter (i : Invocation) (app : Application) (w : World) (c : Command) (k : Sink)
    (second : Run Unit) : Finish :=
  { result := second.result
    sink := second.sink
    tree := w.tree
    events := i.openingEvents app c ++
      ((c.runner app.registry i.mode k).events ++ second.events) }

/-- Only the second phase tells about seeding. -/
theorem filter_events_finishAfter (i : Invocation) (app : Application) (w : World) (c : Command)
    (k : Sink) (second : Run Unit) :
    (i.finishAfter app w c k second).events.filter Event.ofSeeding =
      second.events.filter Event.ofSeeding := by
  have hopening : (i.openingEvents app c).filter Event.ofSeeding = [] := by
    simpa using openingEvents_unseeded i app c
  have hrunner : (c.runner app.registry i.mode k).events.filter Event.ofSeeding = [] := by
    simpa [Run.Unseeded] using c.runner_unseeded app.registry i.mode k
  simp [finishAfter, hopening, hrunner]

/-- When the first phase fails, there is no second one, whatever the seeder. -/
theorem run_of_error {e : TaskError} (hc : c.usesSink = true)
    (h : (c.runner app.registry i.mode k).result = .error e) :
    (i.withCommand c).run app { w with sink := k } = i.finishAfter app w c k
      { result := .error e, sink := (c.runner app.registry i.mode k).sink, events := [] } := by
  rw [run_withCommand, perform_of_usesSink i app _ hc]
  simp [finishRun, finishAfter, Console.seedAfter, Run.andThen, h]

/-- When the first phase is through and no seeding is asked for, that is all. -/
theorem run_of_ok_of_not_seeds {reports : List Report} (hc : c.usesSink = true)
    (hseeds : c.seeds = false) (h : (c.runner app.registry i.mode k).result = .ok reports) :
    (i.withCommand c).run app { w with sink := k } = i.finishAfter app w c k
      { result := .ok (), sink := (c.runner app.registry i.mode k).sink, events := [] } := by
  rw [run_withCommand, perform_of_usesSink i app _ hc]
  simp [finishRun, finishAfter, Console.seedAfter, Run.andThen, h, hseeds]

/-- When the first phase is through, the seeder begins with the sink that it leaves. -/
theorem run_of_ok_of_seeds {reports : List Report} (hc : c.usesSink = true)
    (hseeds : c.seeds = true) (h : (c.runner app.registry i.mode k).result = .ok reports) :
    (i.withCommand c).run app { w with sink := k } = i.finishAfter app w c k
      (Console.seed app i.dialect (c.runner app.registry i.mode k).sink) := by
  rw [run_withCommand, perform_of_usesSink i app _ hc]
  simp [finishRun, finishAfter, Console.seedAfter, Run.andThen, h, hseeds]

/-! ### Footprints -/

theorem run_of_not_usesSink (h : ∀ c ∈ i.command, c.usesSink = false) (k : Sink) :
    i.run app { w with sink := k } = { i.run app w with sink := k } := by
  unfold run
  cases hc : i.command with
  | none => rfl
  | some c =>
    cases c with
    | status json =>
      simp only [perform, Registry.plan]
      split <;> rfl
    | make kind name dir => rfl
    | _ => cases h _ hc

theorem run_of_not_usesFiles (h : ∀ c ∈ i.command, c.usesFiles = false) (t : FileTree) :
    i.run app { w with tree := t } = { i.run app w with tree := t } := by
  unfold run
  cases hc : i.command with
  | none => rfl
  | some c =>
    cases c with
    | status json =>
      simp only [perform]
      split <;> rfl
    | make kind name dir => cases h _ hc
    | _ => rfl

theorem output_eq_empty (hc : i.command = some c) (h : c.prints = false) :
    (i.run app w).output = "" := by
  unfold run
  rw [hc]
  cases c with
  | status json => cases h
  | _ => rfl

/-- **Phases share a sink, and each leaves alone what it does not work on.**  A command that works
on the sink first goes through its agenda.  If an item of the agenda is not accepted, that item
tells the error, the sink has the accepted statements, and the seeder makes no difference.  If all
are accepted and the command seeds, the sink goes on with the statements of the seeder, up to the
refused place, which is counted from the first migration on.  A failure in there, be it that the
sink refuses, is one of the seeder, with all its messages; without a failure, or without a seeder,
the invocation succeeds.

The other commands neither change nor look at the sink, only generating does so with the files, and
only the list and the help are printed by the invocation itself. -/
theorem phases_and_footprints (i : Invocation) (app : Application) (w : World) :
    (∀ (c : Command) (refusal : Option Refusal), c.usesSink = true →
      let items := c.agenda app.registry i.mode
      let accepted := Agenda.accepted refusal items
      let f := (i.withCommand c).run app { w with sink := { refusal } }
      (accepted ≠ items →
        f.sink = { taken := accepted.filterMap Item.statement?, refusal } ∧
        (∃ item rest e, items = accepted ++ item :: rest ∧
          item.Fails refusal accepted.length e ∧ f.result = .error e) ∧
        f.events.filter Event.ofSeeding = [] ∧
        ∀ seeder, (i.withCommand c).run { app with seeder } { w with sink := { refusal } } = f) ∧
      (accepted = items → c.seeds = false →
        f.sink = { taken := items.filterMap Item.statement?, refusal } ∧
        f.result = .ok () ∧ f.events.filter Event.ofSeeding = [] ∧
        ∀ seeder, (i.withCommand c).run { app with seeder } { w with sink := { refusal } } = f) ∧
      (accepted = items → c.seeds = true → app.seeder = none →
        f.sink = { taken := items.filterMap Item.statement?, refusal } ∧
        f.result = .ok () ∧ f.events.filter Event.ofSeeding = [.noSeeder]) ∧
      (accepted = items → c.seeds = true → ∀ seeder, app.seeder = some seeder →
        f.sink = {
          taken := Sink.upTo refusal (items.filterMap Item.statement? ++
            seeder.statements.map (Seeder.fill i.dialect))
          refusal } ∧
        items.filterMap Item.statement? <+: f.sink.taken ∧
        (∀ failure, seeder.Fails refusal items.length failure →
          f.result = .error (.seeder (String.intercalate ": " failure.messages)) ∧
          f.events.filter Event.ofSeeding = []) ∧
        ((∀ failure, ¬ seeder.Fails refusal items.length failure) →
          f.result = .ok () ∧ f.events.filter Event.ofSeeding = [.seeded]))) ∧
    ((∀ c ∈ i.command, c.usesSink = false) →
      ∀ k, i.run app { w with sink := k } = { i.run app w with sink := k }) ∧
    ((∀ c ∈ i.command, c.usesFiles = false) →
      ∀ t, i.run app { w with tree := t } = { i.run app w with tree := t }) ∧
    (∀ c ∈ i.command, c.prints = false → (i.run app w).output = "") ∧
    (i.command = none → (i.run app w).events = []) := by
  refine ⟨fun c refusal hc => ?_, run_of_not_usesSink, run_of_not_usesFiles,
    fun c => output_eq_empty, fun hnone => ?_⟩
  · intro items accepted f
    have hempty : Sink.IsOpen { refusal } := Sink.isOpen_of_taken_eq_nil rfl
    obtain ⟨hsink, hdone, hstopped⟩ := c.runner_empty app.registry i.mode refusal
    have hfirst (hall : accepted = items) : (c.runner app.registry i.mode { refusal }).sink =
        { taken := items.filterMap Item.statement?, refusal } := hsink.trans (hall ▸ rfl)
    refine ⟨fun hne => ?_, fun hall hseeds => ?_, fun hall hseeds hnone => ?_,
      fun hall hseeds seeder hseeder => ?_⟩
    · obtain ⟨item, rest, e, hrest, hfails, hresult⟩ := hstopped hne
      have hf : f = _ := run_of_error hc hresult
      rw [hf, filter_events_finishAfter]
      exact ⟨hsink, ⟨item, rest, e, hrest, hfails, rfl⟩, rfl,
        fun seeder => run_of_error hc hresult⟩
    · have hresult := hdone hall
      have hf : f = _ := run_of_ok_of_not_seeds hc hseeds hresult
      rw [hf, filter_events_finishAfter]
      exact ⟨hfirst hall, rfl, rfl, fun seeder => run_of_ok_of_not_seeds hc hseeds hresult⟩
    · have hf : f = _ := run_of_ok_of_seeds hc hseeds (hdone hall)
      rw [hf, filter_events_finishAfter]
      simp only [Console.seed, hnone]
      exact ⟨hfirst hall, rfl, rfl⟩
    · have hf : f = _ := run_of_ok_of_seeds hc hseeds (hdone hall)
      rw [hf, filter_events_finishAfter]
      simp only [Console.seed, hseeder]
      -- the first phase leaves an open sink with one statement for each item
      have hopen : (c.runner app.registry i.mode { refusal }).sink.IsOpen :=
        (c.runner_follows app.registry i.mode hempty).isOpen hempty
      have hplace := Agenda.length_filterMap_statement? refusal 0 items
      rw [show Agenda.acceptedFrom refusal 0 items = items from hall] at hplace
      rw [hfirst hall] at hopen ⊢
      rw [← hplace]
      have htaken := Seeder.seed_sink hopen seeder i.dialect
      refine ⟨htaken, ?_, fun failure hfails => ?_, fun hfails => ?_⟩
      · rw [show (i.finishAfter app w c { refusal } _).sink = _ from htaken]
        exact hopen.prefix_upTo_append _
      · obtain ⟨hresult, hevents⟩ := Seeder.seed_of_fails hopen i.dialect hfails
        exact ⟨hresult, by rw [hevents]; rfl⟩
      · obtain ⟨hresult, hevents⟩ := Seeder.seed_of_not_fails hopen i.dialect hfails
        exact ⟨hresult, by rw [hevents]; rfl⟩
  · unfold run
    rw [hnone]

/-- A migration, and a seeder with two statements. -/
def staffed : Application where
  registry := .ofList [("m1_users", {
    up := [.call (.setName "users"), .call (.column "email" .text), .call .create]
    down := [.call (.setName "users"), .call .drop] })]
  seeder := some { statements := [⟨"users", "INSERT 1;"⟩, ⟨"users", "INSERT 2;"⟩] }

/-- The place after the first statement of the seeder is refused. -/
theorem staffed_refused :
    let refusal : Refusal := { index := 2, failure := ⟨["disk", "full"]⟩ }
    let f := (listing.withCommand (.migrate true)).run staffed
      { now := 0, tree := { current := [] }, sink := { refusal := some refusal } }
    f.result = .error (.seeder "disk: full") ∧
    f.sink.taken = [⟨"m1_users", "CREATE TABLE IF NOT EXISTS users (email TEXT NOT NULL);"⟩,
      ⟨"users", "INSERT 1;"⟩] := by
  intro refusal f
  obtain ⟨hphases, -⟩ :=
    phases_and_footprints listing staffed { now := 0, tree := { current := [] } }
  obtain ⟨-, -, -, hseeder⟩ := hphases (.migrate true) (some refusal) rfl
  obtain ⟨hsink, -, hfails, -⟩ := hseeder rfl rfl _ rfl
  exact ⟨(hfails refusal.failure (.refused rfl (by decide))).1, congrArg Sink.taken hsink⟩

end Invocation

end Schemata
