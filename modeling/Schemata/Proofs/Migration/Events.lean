import Schemata.Proofs.Migration.Isolation
import Schemata.Proofs.Table.Events

/-!
# What runs tell

The log of a run tells how far it got on its agenda: the opening, then each statement that was
handed to the sink, followed by the migration if the sink took it.  The item at which a run stops
is told as far as it came, and nothing is told of the items after it.

* `Item.lines` — what the log shows of an item, taken or not;
* `Agenda.told` — what is told of an agenda: the items that are taken, and the one after them;
* `Run.Reveals` — an observer of a run, who does not look at its tables, sees what is told of the
  agenda.  Runs in a row show their agendas one after the other (`Run.Reveals.inRow`);
* `Registry.log_tells_run` — the lines of all runs, and how they count the statements.
-/

namespace Schemata

/-! ### Events of items -/

namespace Item

/-- The events of an item that has a statement.  It is handed to the sink, and may be taken. -/
def events (taken : Bool) (i : Item) : List Event :=
  match i.text with
  | .error _ => []
  | .ok sql => .applying i.name sql :: if taken then [.finished i.name i.direction] else []

/-- The words for an item that was taken. -/
def finishedMessage (i : Item) : String :=
  match i.direction with
  | .up => i.name ++ " migrated"
  | .down => i.name ++ " rolled back"

/-- The lines of an item that has a statement. -/
def lines (taken : Bool) (i : Item) : List Event.Line :=
  match i.text with
  | .error _ => []
  | .ok sql =>
    { level := .debug, message := "Applying statement"
      fields := [("migration", i.name), ("sql", sql)] } ::
    if taken then [{ level := .info, message := i.finishedMessage, fields := [] }] else []

variable {i : Item} {b : Bool} {sql : String}

theorem events_of_error {e : TableError} (h : i.text = .error e) : i.events b = [] := by
  simp [events, h]

theorem events_of_ok (h : i.text = .ok sql) :
    i.events b = .applying i.name sql :: if b then [.finished i.name i.direction] else [] := by
  simp [events, h]

end Item

namespace Event

/-- The line of an event that comes from no table. -/
def shown? (e : Event) : Option Event.Line :=
  if e.ofTable then none else some e.line

/-- The migration that was done or taken back. -/
def finished? : Event → Option (String × Direction)
  | .finished migration direction => some (migration, direction)
  | _ => none

/-- The statement that was handed to the sink. -/
def applying? : Event → Option Statement
  | .applying migration sql => some { source := migration, sql }
  | _ => none

end Event

theorem Item.filterMap_shown?_events (b : Bool) (i : Item) :
    (i.events b).filterMap Event.shown? = i.lines b := by
  cases ht : i.text with
  | error e => simp [events, lines, ht]
  | ok sql =>
    cases hd : i.direction <;> cases b <;>
      simp [events, lines, finishedMessage, ht, hd, Event.shown?, Event.ofTable, Event.line,
        Event.level, Event.message, Event.fields]

/-! ### What is told of an agenda -/

namespace Agenda

/-- The item at which a run stops, if there is one. -/
def halted (refusal : Option Refusal) (place : Nat) (items : List Item) : List Item :=
  (items.drop (acceptedFrom refusal place items).length).take 1

/-- What is told of an agenda whose first item comes to the given place. -/
def told {α : Type} (f : Bool → Item → List α) (refusal : Option Refusal) (place : Nat)
    (items : List Item) : List α :=
  (acceptedFrom refusal place items).flatMap (f true) ++
    (halted refusal place items).flatMap (f false)

variable {α : Type} {f : Bool → Item → List α} {refusal : Option Refusal} {place : Nat} {i : Item}
  {items : List Item}

theorem told_nil : told f refusal place [] = [] := by
  simp [told, halted, acceptedFrom]

theorem told_cons_of_isAccepted (h : isAccepted refusal (i, place) = true) :
    told f refusal place (i :: items) = f true i ++ told f refusal (place + 1) items := by
  simp [told, halted, acceptedFrom_cons_of_isAccepted h]

theorem told_cons_of_not_isAccepted (h : isAccepted refusal (i, place) = false) :
    told f refusal place (i :: items) = f false i := by
  simp [told, halted, acceptedFrom_cons_of_not_isAccepted h]

theorem halted_of_eq_self (h : acceptedFrom refusal place items = items) :
    halted refusal place items = [] := by
  simp [halted, h]

theorem halted_of_eq_append {rest : List Item}
    (h : items = acceptedFrom refusal place items ++ i :: rest) :
    halted refusal place items = [i] := by
  rw [halted]
  conv_lhs => arg 2; arg 2; rw [h]
  simp

/-- Two agendas are told one after the other if the first is taken whole. -/
theorem told_append_of_eq_self {first : List Item} (second : List Item)
    (h : acceptedFrom refusal place first = first) :
    told f refusal place (first ++ second) =
      told f refusal place first ++ told f refusal (place + first.length) second := by
  simp only [told, halted, acceptedFrom_append_of_eq_self second h, h]
  simp

/-- Otherwise only the first is told. -/
theorem told_append_of_ne_self {first : List Item} (second : List Item)
    (h : acceptedFrom refusal place first ≠ first) :
    told f refusal place (first ++ second) = told f refusal place first := by
  obtain ⟨i, rest, hi⟩ := (eq_self_or_exists_cons refusal place first).resolve_left h
  have hsame := acceptedFrom_append_of_ne_self second h
  have hwhole : first ++ second =
      acceptedFrom refusal place (first ++ second) ++ i :: (rest ++ second) := by
    rw [hsame, ← List.cons_append, ← List.append_assoc, ← hi]
  rw [told, told, hsame, halted_of_eq_append hwhole, halted_of_eq_append hi]

end Agenda

/-! ### Observers of runs -/

variable {β : Type} {f : Event → Option β}

/-- The observer `f` of the run sees what is told of its agenda, from the sink `k` on. -/
def Run.Reveals (run : Run (List Report)) (f : Event → Option β) (k : Sink) (items : List Item) :
    Prop :=
  run.events.filterMap f =
    Agenda.told (fun b i => (i.events b).filterMap f) k.refusal k.taken.length items

theorem Migration.filterMap_events (hf : ∀ e, f (.table e) = none) (m : Migration) (mode : Mode)
    (direction : Direction) : (m.events mode direction).filterMap f = [] := by
  simp [Migration.events, hf]

namespace Registry

/-- Visiting migrations reveals their agenda to everyone who does not look at the tables. -/
theorem visit_reveals (hf : ∀ e, f (.table e) = none) {mode : Mode} {direction : Direction}
    {k : Sink} (hk : k.IsOpen) (entries : List (String × Migration)) :
    (visit mode direction k entries).Reveals f k (entries.map (.ofEntry mode direction)) := by
  induction entries generalizing k with
  | nil => simp [Run.Reveals, visit, Agenda.told_nil]
  | cons entry entries ih =>
    obtain ⟨name, m⟩ := entry
    have htable := m.filterMap_events hf mode direction
    rw [Run.Reveals, List.map_cons, visit]
    cases ht : m.render mode direction with
    | error e =>
      have hi : (Item.ofEntry mode direction (name, m)).text = .error e := ht
      rw [Agenda.told_cons_of_not_isAccepted (Agenda.isAccepted_of_error hi)]
      simpa [Item.events_of_error hi] using htable
    | ok sql =>
      have hi : (Item.ofEntry mode direction (name, m)).text = .ok sql := ht
      cases ha : Agenda.isAccepted k.refusal (.ofEntry mode direction (name, m),
          k.taken.length) with
      | false =>
        obtain ⟨r, -, -, htake⟩ := Sink.take_of_not_isAccepted (s := ⟨name, sql⟩) hk hi ha
        simp only [htake]
        rw [Agenda.told_cons_of_not_isAccepted ha, List.filterMap_append, htable,
          List.nil_append, Item.events_of_ok hi]
        rfl
      | true =>
        have htake := Sink.take_of_isAccepted (s := ⟨name, sql⟩) ha
        have hlater := ih (Sink.isOpen_of_isAccepted (s := ⟨name, sql⟩) ha)
        simp only [Run.Reveals, List.length_append, List.length_singleton] at hlater
        simp only [htake]
        rw [Agenda.told_cons_of_isAccepted ha, ← hlater, Item.events_of_ok hi, List.append_assoc,
          List.filterMap_append, htable, List.nil_append, ← List.filterMap_append]
        rfl

theorem visit_inOrder_reveals (hf : ∀ e, f (.table e) = none) (r : Registry) (mode : Mode)
    (direction : Direction) {k : Sink} (hk : k.IsOpen) :
    (visit mode direction k (r.inOrder direction)).Reveals f k (r.agenda mode direction) := by
  rw [← map_inOrder]
  exact visit_reveals hf hk _

theorem run_reveals (hf : ∀ e, f (.table e) = none)
    (hrunning : ∀ direction d count, f (.running direction d count) = none) {r : Registry}
    {mode : Mode} {direction : Direction} {k : Sink} (hk : k.IsOpen) :
    (r.run mode direction k).Reveals f k (r.agenda mode direction) := by
  have hvisit := visit_inOrder_reveals hf r mode direction hk
  rw [Run.Reveals] at hvisit
  rw [Run.Reveals, run, Run.after, List.filterMap_cons_none (hrunning _ _ _), hvisit]

end Registry

/-- Runs in a row reveal their agendas one after the other. -/
theorem Run.Reveals.inRow {first : Run (List Report)} {second : Sink → Run (List Report)}
    {k : Sink} {items items' : List Item} (hk : k.IsOpen) (hfirst : first.Follows k items)
    (h : first.Reveals f k items) (h' : ∀ k', k'.IsOpen → (second k').Reveals f k' items') :
    (first.inRow second).Reveals f k (items ++ items') := by
  by_cases hall : Agenda.acceptedFrom k.refusal k.taken.length items = items
  · have hsecond := h' first.sink (hfirst.isOpen hk)
    have hplace := Agenda.length_filterMap_statement? k.refusal k.taken.length items
    rw [hall] at hplace
    rw [Run.Reveals, hfirst.sink, hall] at hsecond
    simp only [List.length_append, hplace] at hsecond
    rw [Run.Reveals, events_inRow_of_ok (hfirst.done hall), List.filterMap_append, h,
      hfirst.sink, hall, hsecond, Agenda.told_append_of_eq_self items' hall]
  · obtain ⟨i, rest, hi⟩ :=
      (Agenda.eq_self_or_exists_cons k.refusal k.taken.length items).resolve_left hall
    obtain ⟨e, he, -⟩ := hfirst.stopped i rest hi
    rw [Run.Reveals, inRow_of_error he, h, Agenda.told_append_of_ne_self items' hall]

/-- Every task reveals its agenda to those who look at neither tables nor openings. -/
theorem Task.reveals_agenda (hf : ∀ e, f (.table e) = none)
    (hrunning : ∀ direction d count, f (.running direction d count) = none) (task : Task)
    (r : Registry) (mode : Mode) {k : Sink} (hk : k.IsOpen) :
    (task.run r mode k).Reveals f k (task.agenda r mode) := by
  cases task with
  | migrate | rollback => exact Registry.run_reveals hf hrunning hk
  | refresh =>
    exact Run.Reveals.inRow hk (Registry.run_follows hk) (Registry.run_reveals hf hrunning hk)
      fun _ => Registry.run_reveals hf hrunning

/-! ### Lines of runs -/

namespace Run

variable {α : Type}

/-- What the log shows of the run, beside what its tables tell. -/
def lines (run : Run α) : List Event.Line :=
  run.events.filterMap Event.shown?

/-- The migrations that the log tells to be done or taken back. -/
def finished (run : Run α) : List (String × Direction) :=
  run.events.filterMap Event.finished?

/-- The statements that the log tells to be handed to the sink. -/
def applied (run : Run α) : List Statement :=
  run.events.filterMap Event.applying?

/-- The log of the run accounts for what its sink took. -/
structure Accounts (run : Run (List Report)) : Prop where
  /-- The migrations told to be done are those whose statements were taken. -/
  finished : run.finished.map Prod.fst = run.sink.taken.map Statement.source
  /-- If the run succeeds, it reports them. -/
  reported : ∀ reports, run.result = .ok reports →
    run.finished = reports.map fun report => (report.name, report.direction)
  /-- A statement that the sink refuses is told to be applied after all that were taken. -/
  refused : ∀ name text, run.result = .error (.sink name text) →
    ∃ sql, run.applied = run.sink.taken ++ [{ source := name, sql }]
  /-- Otherwise the statements told to be applied are those that were taken. -/
  taken : (∀ name text, run.result ≠ .error (.sink name text)) → run.applied = run.sink.taken

namespace Accounts

variable {run : Run (List Report)}

theorem length_finished (h : run.Accounts) : run.finished.length = run.sink.taken.length := by
  simpa using congrArg List.length h.finished

theorem length_applied (h : run.Accounts) : run.applied.length = run.finished.length + 1 ↔
    ∃ name text, run.result = .error (.sink name text) := by
  rw [h.length_finished]
  constructor
  · intro hone
    by_contra hne
    have htaken := h.taken fun name text he => hne ⟨name, text, he⟩
    simp [htaken] at hone
  · rintro ⟨name, text, he⟩
    obtain ⟨sql, happlied⟩ := h.refused name text he
    simp [happlied]

end Accounts

end Run

namespace Registry

/-- The line that opens a run. -/
def openingLine (r : Registry) (mode : Mode) (direction : Direction) : Event.Line :=
  { level := .info, message := "Running migrations"
    fields := [("direction", direction.name), ("dialect", mode.dialect.name),
      ("count", Decimal.ofNat r.entries.length)] }

variable {r : Registry} {mode : Mode} {direction : Direction} {k : Sink}

/-- A run is opened, and then shows its agenda. -/
theorem lines_run (hk : k.IsOpen) :
    (r.run mode direction k).lines = r.openingLine mode direction ::
      Agenda.told Item.lines k.refusal k.taken.length (r.agenda mode direction) := by
  have hvisit := visit_inOrder_reveals (f := Event.shown?) (fun _ => rfl) r mode direction hk
  simp only [Run.Reveals, Item.filterMap_shown?_events] at hvisit
  rw [← hvisit]
  rfl

theorem lines_plan : (r.plan mode direction k).lines = [] := by
  rw [Run.lines, events_plan r mode direction k []]
  simp [Event.shown?]

end Registry

/-! ### Counting -/

namespace Agenda

variable {refusal : Option Refusal} {place : Nat} {i : Item} {items : List Item}

theorem exists_text_of_mem (h : i ∈ acceptedFrom refusal place items) :
    ∃ sql, i.text = .ok sql := by
  obtain ⟨p, hp, rfl⟩ := List.mem_map.1 h
  exact exists_text_of_isAccepted (List.mem_takeWhile_imp hp)

theorem filterMap_statement?_map_source :
    ((acceptedFrom refusal place items).filterMap Item.statement?).map Statement.source =
      (acceptedFrom refusal place items).map Item.name := by
  rw [List.map_filterMap, List.filterMap_eq_map_iff_forall_eq_some]
  intro i hi
  obtain ⟨sql, ht⟩ := exists_text_of_mem hi
  simp [Item.statement?, ht, Except.toOption]

theorem filterMap_report?_map :
    ((acceptedFrom refusal place items).filterMap Item.report?).map
        (fun report => (report.name, report.direction)) =
      (acceptedFrom refusal place items).map fun i => (i.name, i.direction) := by
  rw [List.map_filterMap, List.filterMap_eq_map_iff_forall_eq_some]
  intro i hi
  obtain ⟨sql, ht⟩ := exists_text_of_mem hi
  simp [Item.report?, ht, Except.toOption]

/-- Everything that is told to be finished was taken. -/
theorem told_finished :
    told (fun b i => (i.events b).filterMap Event.finished?) refusal place items =
      (acceptedFrom refusal place items).map fun i => (i.name, i.direction) := by
  have hhalted : ∀ i : Item, (i.events false).filterMap Event.finished? = [] := by
    intro i
    cases ht : i.text with
    | error e => simp [Item.events_of_error ht]
    | ok sql => simp [Item.events_of_ok ht, Event.finished?]
  have htaken : ∀ i ∈ acceptedFrom refusal place items,
      (i.events true).filterMap Event.finished? = [(i.name, i.direction)] := by
    intro i hi
    obtain ⟨sql, ht⟩ := exists_text_of_mem hi
    rw [Item.events_of_ok ht]
    rfl
  rw [told, List.flatMap_congr htaken, List.map_eq_flatMap]
  simp [hhalted]

/-- Everything that is told to be applied was taken, or is what the run stopped at. -/
theorem told_applying :
    told (fun b i => (i.events b).filterMap Event.applying?) refusal place items =
      (acceptedFrom refusal place items).filterMap Item.statement? ++
        (halted refusal place items).filterMap Item.statement? := by
  have hone : ∀ (b : Bool) (i : Item),
      (i.events b).filterMap Event.applying? = i.statement?.toList := by
    intro b i
    cases ht : i.text with
    | error e => simp [Item.events_of_error ht, Item.statement?, ht, Except.toOption]
    | ok sql =>
      cases b <;> simp [Item.events_of_ok ht, Item.statement?, ht, Except.toOption, Event.applying?]
  simp only [told, hone, List.filterMap_eq_flatMap_toList]

end Agenda

namespace Run.Follows

variable {run : Run (List Report)} {k : Sink} {items : List Item}

/-- A run that the sink stopped had one more statement to hand over. -/
theorem halted_of_sink_error (h : run.Follows k items) {name text : String}
    (he : run.result = .error (.sink name text)) :
    ∃ sql, (Agenda.halted k.refusal k.taken.length items).filterMap Item.statement? =
      [{ source := name, sql }] := by
  obtain ⟨i, rest, hi, hfails⟩ := h.result_eq_error_iff.1 he
  rw [Agenda.halted_of_eq_append hi]
  cases hfails with
  | @sink sql _ ht _ _ => exact ⟨sql, by simp [Item.statement?, ht, Except.toOption]⟩

/-- Any other run had none. -/
theorem halted_of_no_sink_error (h : run.Follows k items)
    (hne : ∀ name text, run.result ≠ .error (.sink name text)) :
    (Agenda.halted k.refusal k.taken.length items).filterMap Item.statement? = [] := by
  rcases Agenda.eq_self_or_exists_cons k.refusal k.taken.length items with hall | ⟨i, rest, hi⟩
  · rw [Agenda.halted_of_eq_self hall]
    rfl
  · obtain ⟨e, he, hfails⟩ := h.stopped i rest hi
    rw [Agenda.halted_of_eq_append hi]
    cases hfails with
    | schema ht => simp [Item.statement?, ht, Except.toOption]
    | sink => exact absurd he (hne _ _)

end Run.Follows

namespace Task

variable (task : Task) (r : Registry) (mode : Mode) (refusal : Option Refusal)

theorem finished_run : (task.run r mode { refusal }).finished =
    (Agenda.accepted refusal (task.agenda r mode)).map fun i => (i.name, i.direction) := by
  have h := reveals_agenda (f := Event.finished?) (fun _ => rfl) (fun _ _ _ => rfl) task r mode
    (Sink.isOpen_new refusal)
  exact h.trans Agenda.told_finished

theorem applied_run : (task.run r mode { refusal }).applied =
    (task.run r mode { refusal }).sink.taken ++
      (Agenda.halted refusal 0 (task.agenda r mode)).filterMap Item.statement? := by
  have h := reveals_agenda (f := Event.applying?) (fun _ => rfl) (fun _ _ _ => rfl) task r mode
    (Sink.isOpen_new refusal)
  rw [(follows_agenda task r mode (Sink.isOpen_new refusal)).sink]
  exact h.trans Agenda.told_applying

/-- Every task accounts for what its sink took. -/
theorem accounts_run : (task.run r mode { refusal }).Accounts := by
  have hfollows := follows_agenda task r mode (Sink.isOpen_new refusal)
  refine ⟨?_, fun reports h => ?_, fun name text h => ?_, fun h => ?_⟩
  · rw [finished_run, hfollows.sink]
    simp [Agenda.accepted, Agenda.filterMap_statement?_map_source, Function.comp_def]
  · obtain ⟨hall, rfl⟩ := hfollows.result_eq_ok_iff.1 h
    have hwhole : Agenda.acceptedFrom refusal 0 (task.agenda r mode) = task.agenda r mode := hall
    rw [finished_run, Agenda.accepted, ← Agenda.filterMap_report?_map, hwhole]
  · obtain ⟨sql, hsql⟩ := hfollows.halted_of_sink_error h
    exact ⟨sql, (applied_run task r mode refusal).trans (congrArg _ hsql)⟩
  · rw [applied_run]
    simpa using hfollows.halted_of_no_sink_error h

end Task

namespace Run

variable {first : Run (List Report)} {second : Sink → Run (List Report)}

theorem lines_inRow : (first.inRow second).lines = first.lines ++
    match first.result with
    | .error _ => []
    | .ok _ => (second first.sink).lines := by
  cases h : first.result with
  | error e => rw [inRow_of_error h, List.append_nil]
  | ok back => rw [lines, events_inRow_of_ok h, List.filterMap_append]; rfl

end Run

namespace Registry

/-- A refresh shows the rollback, and then, only if that succeeds, the migrations from the place
that the rollback left. -/
theorem lines_refresh (r : Registry) (mode : Mode) (refusal : Option Refusal) :
    (r.refresh mode { refusal }).lines = (r.rollback mode { refusal }).lines ++
      match (r.rollback mode { refusal }).result with
      | .error _ => []
      | .ok _ => r.openingLine mode .up ::
          Agenda.told Item.lines refusal r.entries.length (r.agenda mode .up) := by
  have hopen := Sink.isOpen_new refusal
  have hdown : (r.rollback mode { refusal }).Follows { refusal } (r.agenda mode .down) :=
    run_follows hopen
  refine Run.lines_inRow.trans (congrArg _ ?_)
  cases h : (r.rollback mode { refusal }).result with
  | error e => rfl
  | ok back =>
    -- the rollback took one statement for each migration
    have hall : Agenda.acceptedFrom refusal 0 (r.agenda mode .down) = r.agenda mode .down :=
      (hdown.result_eq_ok_iff.1 h).1
    have hplace := Agenda.length_filterMap_statement? refusal 0 (r.agenda mode .down)
    rw [hall] at hplace
    have hsink := hdown.sink
    refine (lines_run (hdown.isOpen hopen)).trans ?_
    rw [hsink]
    simp [hall, hplace, length_agenda]

/-- **The log tells what happened.**  The agenda forwards has an item for each migration of the
registry, in the order of the names, and the agenda backwards is the other way round.  A run opens
with its direction, its dialect and the number of migrations.  Then it tells, in the order of its
agenda, the statement that each accepted migration handed to the sink and that it was done, and, if
there is a migration that was not accepted, its statement in case it has one, and nothing of those
after it.  A refresh tells its rollback, and its migrations only if that succeeds, and a plan tells
none of this.  So in all tasks the migrations told to be done are those whose statements the sink
took, and on success those of the reports; the statements told to be applied are those taken, and
one more exactly if the sink refused it. -/
theorem log_tells_run (r : Registry) (mode : Mode) (refusal : Option Refusal) :
    (r.agenda mode .up = r.entries.map (.ofEntry mode .up) ∧
      r.agenda mode .down = (r.entries.map (.ofEntry mode .down)).reverse) ∧
    (∀ direction, (r.run mode direction { refusal }).lines =
      r.openingLine mode direction ::
        Agenda.told Item.lines refusal 0 (r.agenda mode direction)) ∧
    ((r.refresh mode { refusal }).lines = (r.rollback mode { refusal }).lines ++
      match (r.rollback mode { refusal }).result with
      | .error _ => []
      | .ok _ => r.openingLine mode .up ::
          Agenda.told Item.lines refusal r.entries.length (r.agenda mode .up)) ∧
    (∀ direction k, (r.plan mode direction k).lines = []) ∧
    ∀ task : Task,
      let run := task.run r mode { refusal }
      run.Accounts ∧ run.finished.length = run.sink.taken.length ∧
        (run.applied.length = run.finished.length + 1 ↔
          ∃ name text, run.result = .error (.sink name text)) :=
  ⟨⟨r.agenda_up mode, r.agenda_down mode⟩, fun _ => lines_run (Sink.isOpen_new refusal),
    lines_refresh r mode refusal, fun _ _ => lines_plan, fun task =>
      have h := task.accounts_run r mode refusal
      ⟨h, h.length_finished, h.length_applied⟩⟩

/-- A migration that drops the table when it is taken back. -/
def dropsBack (table : String) : Migration where
  up := []
  down := [.call (.setName table), .call .drop]

/-- The migrations of three tables. -/
def drops : Registry :=
  ofList [("m1_users", dropsBack "users"), ("m2_posts", dropsBack "posts"),
    ("m3_tags", dropsBack "tags")]

/-- The sink refuses the second statement of a rollback.  The log ends with it, and the first
migration, which would come last, does not appear. -/
theorem refused_rollback_is_told :
    (drops.run { dialect := .generic } .down
      { refusal := some { index := 1, failure := { messages := ["disk full"] } } }).lines =
      [{ level := .info, message := "Running migrations"
         fields := [("direction", "down"), ("dialect", "generic"), ("count", "3")] },
       { level := .debug, message := "Applying statement"
         fields := [("migration", "m3_tags"), ("sql", "DROP TABLE IF EXISTS tags;")] },
       { level := .info, message := "m3_tags rolled back", fields := [] },
       { level := .debug, message := "Applying statement"
         fields := [("migration", "m2_posts"), ("sql", "DROP TABLE IF EXISTS posts;")] }] := by
  obtain ⟨-, hrun, -⟩ := log_tells_run drops { dialect := .generic }
    (some { index := 1, failure := { messages := ["disk full"] } })
  rw [hrun]
  decide +kernel

end Registry

end Schemata
