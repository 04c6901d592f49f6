import Schemata.Proofs.Migration.Planning
import Schemata.Proofs.Migration.Registration

/-!
# Migrations by themselves

Every migration works on a table of its own.  So what shows of a migration in a run is what its
script does on a new table, whatever migrations come before it, come after it or are taken back
first.  It shows in the events of the run, which are read back into episodes, one for each
migration that the run comes to, in the reports, and in the error.

* `Episode.alone` — a migration on a new table;
* `Run.episodes` — the episodes of a run, read from its events and its result;
* `Run.Unfolds` — a run that comes to the episodes of a list, in order.  Runs that do so can be put
  in a row (`Run.Unfolds.inRow`);
* `Registry.Shows` — what a plan or a run shows of a migration;
* `Registry.migrations_are_independent` — two registries with a migration in common.
-/

namespace Schemata

/-! ### Episodes -/

/-- What shows of a migration when a run comes to it. -/
structure Episode where
  /-- The migration with its statement, or with the error. -/
  item : Item
  /-- What its table tells. -/
  told : List TableEvent

/-- A table as it is made for the mode. -/
def Mode.newTable (mode : Mode) : Table :=
  if mode.strict then .checked mode.dialect else .permissive mode.dialect

theorem Mode.freshTable_eq_newTable (mode : Mode) : mode.freshTable = mode.newTable := by
  rcases mode with ⟨d, _ | _⟩ <;> rfl

namespace Episode

/-- The script of the migration on a new table. -/
def alone (mode : Mode) (direction : Direction) (entry : String × Migration) : Episode :=
  let o := (entry.2.script direction).run mode.newTable
  { item := { name := entry.1, direction, text := o.reply.map (·.getD "") }, told := o.events }

theorem alone_eq (mode : Mode) (direction : Direction) (entry : String × Migration) :
    alone mode direction entry =
      { item := .ofEntry mode direction entry
        told := (entry.2.outcome mode direction).events } := by
  simp only [alone, Item.ofEntry, Migration.render, Migration.outcome, Mode.freshTable_eq_newTable]
  cases ((entry.2.script direction).run mode.newTable).reply <;> rfl

end Episode

/-- The episodes that are told by events.  A statement ends the episode of its migration, and the
failure of a migration ends the run. -/
def episodesOf (failure : Option (String × TableError)) :
    Direction → List TableEvent → List Event → List Episode
  | direction, told, [] =>
    (failure.map fun (name, e) => { item := { name, direction, text := .error e }, told }).toList
  | direction, told, .table e :: rest => episodesOf failure direction (told ++ [e]) rest
  | _, _, .running direction _ _ :: rest => episodesOf failure direction [] rest
  | direction, told, .applying name sql :: rest =>
    { item := { name, direction, text := .ok sql }, told } ::
      episodesOf failure direction [] rest
  | direction, told, _ :: rest => episodesOf failure direction told rest

/-- The migration that has no statement, if the result says so. -/
def schemaFailure? {α : Type} : Except TaskError α → Option (String × TableError)
  | .error (.schema name e) => some (name, e)
  | _ => none

theorem schemaFailure?_map {α β : Type} (f : α → β) (result : Except TaskError α) :
    schemaFailure? (result.map f) = schemaFailure? result := by
  cases result with
  | error e => cases e <;> rfl
  | ok a => rfl

/-- The episodes of a run, which tells the direction before the first of them. -/
def Run.episodes {α : Type} (run : Run α) : List Episode :=
  episodesOf (schemaFailure? run.result) .up [] run.events

variable {failure : Option (String × TableError)} {direction : Direction}
  {told : List TableEvent}

theorem episodesOf_table (events : List TableEvent) (rest : List Event) :
    episodesOf failure direction told (events.map .table ++ rest) =
      episodesOf failure direction (told ++ events) rest := by
  induction events generalizing told with
  | nil => simp
  | cons e events ih => simp [episodesOf, ih]

/-- The events of a script come before its statement or its error. -/
theorem episodesOf_events (failure : Option (String × TableError)) (m : Migration) (mode : Mode)
    (direction : Direction) (rest : List Event) :
    episodesOf failure direction [] (m.events mode direction ++ rest) =
      episodesOf failure direction (m.outcome mode direction).events rest :=
  episodesOf_table _ rest

/-- A direction that is told begins anew. -/
theorem episodesOf_append_running (first : List Event) (later : Direction) (d : Dialect)
    (count : Nat) (rest : List Event) :
    episodesOf failure direction told (first ++ .running later d count :: rest) =
      episodesOf none direction told first ++ episodesOf failure later [] rest := by
  induction first generalizing direction told with
  | nil => simp [episodesOf]
  | cons e first ih => cases e <;> simp [episodesOf, ih]

/-! ### Runs and their episodes -/

/-- The error that a run ends with at the item: it has no statement, or the sink refuses it. -/
inductive Item.Ends (i : Item) : TaskError → Prop
  /-- There is no statement. -/
  | schema {e : TableError} (h : i.text = .error e) : Ends i (.schema i.name e)
  /-- The sink refuses the statement. -/
  | sink {sql : String} (f : Failure) (h : i.text = .ok sql) : Ends i (.sink i.name f.text)

/-- The run comes to the episodes of the list, in order, and to no others. -/
structure Run.Unfolds (run : Run (List Report)) (k : Sink) (all : List Episode) : Prop where
  /-- What shows is a part of the list, from its start. -/
  shown : run.episodes <+: all
  /-- The sink gets statements that show, and no others. -/
  taken : run.sink.taken <+: k.taken ++ run.episodes.filterMap fun x => x.item.statement?
  /-- A run that succeeds comes to all episodes, and hands over and reports all statements. -/
  done : ∀ reports, run.result = .ok reports → run.episodes = all ∧
    run.sink.taken = k.taken ++ (all.filterMap fun x => x.item.statement?) ∧
    reports = all.filterMap fun x => x.item.report?
  /-- A run that fails does so at the last episode that shows. -/
  stopped : ∀ e, run.result = .error e → ∃ before x, run.episodes = before ++ [x] ∧ x.item.Ends e

namespace Run

variable {run later : Run (List Report)} {k k' : Sink} {x : Episode} {front all : List Episode}

/-- A run that ends at its first episode. -/
theorem unfolds_of_ends {e : TaskError} (hr : run.result = .error e) (hs : run.sink = k)
    (hx : run.episodes = [x]) (he : x.item.Ends e) : run.Unfolds k (x :: all) := by
  refine ⟨?_, ?_, fun reports hok => ?_, fun e' he' => ⟨[], x, hx, ?_⟩⟩
  · rw [hx]
    exact ⟨all, rfl⟩
  · rw [hs]
    exact List.prefix_append ..
  · cases hr.symm.trans hok
  · cases hr.symm.trans he'
    exact he

/-- A run that goes on after its first episodes, with what they hand over and report. -/
theorem unfolds_of_later (h : later.Unfolds k' all)
    (hk : k'.taken = k.taken ++ front.filterMap fun x => x.item.statement?)
    (hr : run.result = later.result.map ((front.filterMap fun x => x.item.report?) ++ ·))
    (hs : run.sink = later.sink) (hx : run.episodes = front ++ later.episodes) :
    run.Unfolds k (front ++ all) := by
  obtain ⟨hshown, htaken, hdone, hstopped⟩ := h
  refine ⟨?_, ?_, fun reports hok => ?_, fun e he => ?_⟩
  · rw [hx]
    exact (List.prefix_append_right_inj front).2 hshown
  · rw [hs, hx, List.filterMap_append, ← List.append_assoc, ← hk]
    exact htaken
  · cases hlater : later.result with
    | error e => simp [hr, hlater, Except.map] at hok
    | ok reports' =>
      obtain ⟨hall, hsink, rfl⟩ := hdone reports' hlater
      refine ⟨by rw [hx, hall], ?_, ?_⟩
      · rw [hs, hsink, hk, List.filterMap_append, List.append_assoc]
      · simpa [hr, hlater, Except.map] using hok.symm
  · cases hlater : later.result with
    | error e' =>
      obtain ⟨before, x, hlast, hends⟩ := hstopped e' hlater
      have heq : e' = e := by simpa [hr, hlater, Except.map] using he
      subst heq
      exact ⟨front ++ before, x, by rw [hx, hlast, List.append_assoc], hends⟩
    | ok reports => simp [hr, hlater, Except.map] at he

/-- A run that goes on after the sink took the statement of its first episode. -/
theorem unfolds_of_taken {sql : String}
    (h : later.Unfolds { k with taken := k.taken ++ [{ source := x.item.name, sql }] } all)
    (ht : x.item.text = .ok sql)
    (hr : run.result = later.result.map
      ({ name := x.item.name, direction := x.item.direction, sql } :: ·))
    (hs : run.sink = later.sink) (hx : run.episodes = x :: later.episodes) :
    run.Unfolds k (x :: all) := by
  have hstatement : x.item.statement? = some { source := x.item.name, sql } := by
    simp [Item.statement?, ht, Except.toOption]
  have hreport : x.item.report? =
      some { name := x.item.name, direction := x.item.direction, sql } := by
    simp [Item.report?, ht, Except.toOption]
  have hepisodes : run.episodes = [x] ++ later.episodes := hx
  have hresult : run.result =
      later.result.map (([x].filterMap fun x => x.item.report?) ++ ·) := by
    simpa [hreport] using hr
  exact unfolds_of_later h (by simp [hstatement]) hresult hs hepisodes

end Run

theorem Sink.eq_of_take {k k' : Sink} {s : Statement} (h : k.take s = .ok k') :
    k' = { k with taken := k.taken ++ [s] } := by
  unfold take at h
  split at h
  · exact (Except.ok.inj h).symm
  · split at h
    · cases h
    · exact (Except.ok.inj h).symm

namespace Registry

/-- A run comes to its migrations one by one, and each of them is by itself. -/
theorem visit_unfolds (mode : Mode) (direction : Direction) (k : Sink) (d : Dialect) (count : Nat)
    (entries : List (String × Migration)) :
    ((visit mode direction k entries).after (.running direction d count)).Unfolds k
      (entries.map (.alone mode direction)) := by
  induction entries generalizing k with
  | nil =>
    refine ⟨List.prefix_rfl, by simp [visit, Run.after], ?_, nofun⟩
    rintro _ ⟨⟩
    simp [visit, Run.after, Run.episodes, schemaFailure?, episodesOf]
  | cons entry entries ih =>
    obtain ⟨name, m⟩ := entry
    rw [visit, List.map_cons, Episode.alone_eq]
    cases hm : m.render mode direction with
    | error e =>
      refine Run.unfolds_of_ends rfl rfl ?_ (.schema hm)
      have hevents := episodesOf_events (some (name, e)) m mode direction []
      rw [List.append_nil] at hevents
      simp [Run.episodes, Run.after, schemaFailure?, episodesOf, hevents, Item.ofEntry, hm]
    | ok sql =>
      cases htake : k.take { source := name, sql } with
      | error f =>
        simp only [htake]
        refine Run.unfolds_of_ends rfl rfl ?_ (.sink f hm)
        simp [Run.episodes, Run.after, schemaFailure?, episodesOf, episodesOf_events, Item.ofEntry,
          hm]
      | ok k' =>
        obtain rfl := Sink.eq_of_take htake
        simp only [htake]
        refine Run.unfolds_of_taken (ih _) hm rfl rfl ?_
        simp [Run.episodes, Run.after, schemaFailure?_map, episodesOf, episodesOf_events,
          Item.ofEntry, hm]

theorem run_unfolds (r : Registry) (mode : Mode) (direction : Direction) (k : Sink) :
    (r.run mode direction k).Unfolds k ((r.inOrder direction).map (.alone mode direction)) :=
  visit_unfolds ..

end Registry

/-! ### Runs in a row -/

namespace Run

variable {first : Run (List Report)} {second : Sink → Run (List Report)} {k : Sink}
  {all all' : List Episode}

theorem events_inRow_of_ok {back : List Report} (h : first.result = .ok back) :
    (first.inRow second).events = first.events ++ (second first.sink).events := by
  cases h' : (second first.sink).result <;> simp [inRow, andThen, h, h']

theorem episodes_inRow_of_ok {back : List Report} {d : Direction} {dialect : Dialect} {count : Nat}
    {rest : List Event} (h : first.result = .ok back)
    (hsecond : (second first.sink).events = .running d dialect count :: rest) :
    (first.inRow second).episodes = first.episodes ++ (second first.sink).episodes := by
  rw [episodes, episodes, episodes, result_inRow_of_ok h, schemaFailure?_map,
    events_inRow_of_ok h, hsecond, episodesOf_append_running, h]
  rfl

/-- What the second of two runs shows does not depend on the first. -/
theorem Unfolds.inRow (h : first.Unfolds k all) (h' : ∀ k', (second k').Unfolds k' all')
    (htold : ∀ k', ∃ d dialect count rest, (second k').events = .running d dialect count :: rest) :
    (first.inRow second).Unfolds k (all ++ all') := by
  cases hfirst : first.result with
  | error e =>
    rw [inRow_of_error hfirst]
    refine ⟨h.shown.trans (List.prefix_append ..), h.taken, fun reports hok => ?_, h.stopped⟩
    cases hfirst.symm.trans hok
  | ok back =>
    obtain ⟨hall, hsink, rfl⟩ := h.done back hfirst
    obtain ⟨d, dialect, count, rest, hevents⟩ := htold first.sink
    have hepisodes := episodes_inRow_of_ok hfirst hevents
    rw [hall] at hepisodes
    exact unfolds_of_later (h' first.sink) hsink (result_inRow_of_ok hfirst)
      (sink_inRow_of_ok hfirst) hepisodes

end Run

namespace Task

/-- The migrations that a task comes to, each by itself. -/
def solos (r : Registry) (mode : Mode) : Task → List Episode
  | migrate => r.entries.map (.alone mode .up)
  | rollback => (r.entries.map (.alone mode .down)).reverse
  | refresh => (r.entries.map (.alone mode .down)).reverse ++ r.entries.map (.alone mode .up)

theorem solos_task (direction : Direction) (r : Registry) (mode : Mode) :
    direction.task.solos r mode = (r.inOrder direction).map (.alone mode direction) := by
  cases direction with
  | up => rfl
  | down => rw [Registry.inOrder, List.map_reverse]; rfl

theorem unfolds (task : Task) (r : Registry) (mode : Mode) (k : Sink) :
    (task.run r mode k).Unfolds k (task.solos r mode) := by
  have hrun (direction : Direction) (k : Sink) :
      (r.run mode direction k).Unfolds k (direction.task.solos r mode) := by
    rw [solos_task]
    exact Registry.run_unfolds ..
  cases task with
  | migrate => exact hrun .up k
  | rollback => exact hrun .down k
  | refresh => exact (hrun .down k).inRow (hrun .up) fun _ => ⟨_, _, _, _, rfl⟩

theorem exists_eq_alone_of_mem_solos {task : Task} {r : Registry} {mode : Mode} {x : Episode}
    (h : x ∈ task.solos r mode) :
    ∃ entry ∈ r.entries, x = .alone mode x.item.direction entry := by
  have hmap {direction : Direction} (h : x ∈ r.entries.map (.alone mode direction)) :
      ∃ entry ∈ r.entries, x = .alone mode x.item.direction entry := by
    obtain ⟨entry, hentry, rfl⟩ := List.mem_map.1 h
    exact ⟨entry, hentry, rfl⟩
  cases task with
  | migrate => exact hmap h
  | rollback => exact hmap (List.mem_reverse.1 h)
  | refresh =>
    rcases List.mem_append.1 h with hdown | hup
    · exact hmap (List.mem_reverse.1 hdown)
    · exact hmap hup

end Task

/-! ### Two registries -/

/-- What a report says of its migration. -/
def Report.item (report : Report) : Item :=
  { name := report.name, direction := report.direction, text := .ok report.sql }

theorem Item.item_of_report? {i : Item} {report : Report} (h : i.report? = some report) :
    report.item = i := by
  obtain ⟨name, direction, e | sql⟩ := i
  · cases h
  · cases h
    rfl

namespace Registry

/-- A plan or a run of the registry shows the item. -/
inductive Shows (r : Registry) (mode : Mode) : Item → Prop
  /-- A plan reports it. -/
  | planned {direction : Direction} {k : Sink} {reports : List Report} {report : Report}
    (h : (r.plan mode direction k).result = .ok reports) (hr : report ∈ reports) :
    Shows r mode report.item
  /-- A plan fails with it. -/
  | unplanned {direction : Direction} {k : Sink} {name : String} {e : TableError}
    (h : (r.plan mode direction k).result = .error (.schema name e)) :
    Shows r mode { name, direction, text := .error e }
  /-- A run comes to it. -/
  | reached {task : Task} {k : Sink} {x : Episode} (h : x ∈ (task.run r mode k).episodes) :
    Shows r mode x.item
  /-- A run reports it. -/
  | reported {task : Task} {k : Sink} {reports : List Report} {report : Report}
    (h : (task.run r mode k).result = .ok reports) (hr : report ∈ reports) :
    Shows r mode report.item

variable {r r' : Registry} {mode : Mode} {direction : Direction} {name : String} {m : Migration}
  {i i' : Item}

theorem eq_of_mem_entries {m' : Migration} (h : (name, m) ∈ r.entries)
    (h' : (name, m') ∈ r.entries) : m = m' :=
  (Prod.mk.inj (List.inj_on_of_nodup_map r.nodup_names h h' rfl)).2

/-- An episode of a run is that of a migration by itself. -/
theorem eq_alone_of_mem_episodes {task : Task} {k : Sink} {x : Episode}
    (h : (name, m) ∈ r.entries) (hx : x ∈ (task.run r mode k).episodes)
    (hname : x.item.name = name) : x = .alone mode x.item.direction (name, m) := by
  obtain ⟨⟨name', m'⟩, hentry, hx⟩ :=
    Task.exists_eq_alone_of_mem_solos ((task.unfolds r mode k).shown.subset hx)
  have hname' : x.item.name = name' := by rw [hx]; rfl
  cases hname.symm.trans hname'
  rw [eq_of_mem_entries h hentry]
  exact hx

/-- Reports of a run are about its episodes. -/
theorem exists_episode_of_mem_reports {task : Task} {k : Sink} {reports : List Report}
    {report : Report} (h : (task.run r mode k).result = .ok reports) (hr : report ∈ reports) :
    ∃ x ∈ (task.run r mode k).episodes, report.item = x.item := by
  obtain ⟨hall, -, rfl⟩ := (task.unfolds r mode k).done reports h
  obtain ⟨x, hx, hreport⟩ := List.mem_filterMap.1 hr
  exact ⟨x, hall ▸ hx, Item.item_of_report? hreport⟩

/-- Whatever shows is shown by the episode of a run. -/
theorem Shows.exists_episode (h : r.Shows mode i) :
    ∃ (task : Task) (k : Sink), ∃ x ∈ (task.run r mode k).episodes, i = x.item := by
  cases h with
  | reached hx => exact ⟨_, _, _, hx, rfl⟩
  | reported h hr => exact ⟨_, _, exists_episode_of_mem_reports h hr⟩
  | @planned direction k reports report h hr =>
    -- the plan has the result of a run into a sink without a refusal
    have hrun : (direction.task.run r mode {}).result = .ok reports := by
      rw [direction.run_task]
      exact (result_visit ..).trans h
    exact ⟨_, _, exists_episode_of_mem_reports hrun hr⟩
  | @unplanned direction k name e h =>
    have hrun : (direction.task.run r mode {}).result = .error (.schema name e) := by
      rw [direction.run_task]
      exact (result_visit ..).trans h
    obtain ⟨before, x, hepisodes, hends⟩ := (direction.task.unfolds r mode {}).stopped _ hrun
    have hx : x ∈ (direction.task.run r mode {}).episodes := by simp [hepisodes]
    refine ⟨_, _, x, hx, ?_⟩
    have hsolo := (direction.task.unfolds r mode {}).shown.subset hx
    rw [Task.solos_task] at hsolo
    obtain ⟨entry, -, rfl⟩ := List.mem_map.1 hsolo
    cases hends with
    | schema ht => rw [← ht]; rfl

/-- **Migrations do not influence each other.**  A run comes to migrations of its registry in the
order of its task, and hands over and reports no other statements.  What shows of a migration, in
plans and runs of two registries that have it under one name, is one and the same: its script on a
new table gives the statement or the error, and the events of that table are all that is told. -/
theorem migrations_are_independent (mode : Mode) (direction : Direction) (name : String)
    (m : Migration) (h : (name, m) ∈ r.entries) (h' : (name, m) ∈ r'.entries) :
    (∀ (task : Task) (k : Sink), (task.run r mode k).Unfolds k (task.solos r mode)) ∧
    (∀ i i', r.Shows mode i → r'.Shows mode i' → i.name = name → i'.name = name →
      i.direction = direction → i'.direction = direction →
        i = i' ∧ i.text = ((m.script direction).run mode.newTable).reply.map (·.getD "")) ∧
    (∀ (task task' : Task) (k k' : Sink), ∀ x ∈ (task.run r mode k).episodes,
      ∀ x' ∈ (task'.run r' mode k').episodes, x.item.name = name → x'.item.name = name →
      x.item.direction = direction → x'.item.direction = direction →
        x = x' ∧ x = .alone mode direction (name, m)) := by
  refine ⟨fun task k => task.unfolds r mode k, fun i i' hi hi' hn hn' hd hd' => ?_,
    fun task task' k k' x hx x' hx' hn hn' hd hd' => ?_⟩
  · obtain ⟨task, k, x, hx, rfl⟩ := hi.exists_episode
    obtain ⟨task', k', x', hx', rfl⟩ := hi'.exists_episode
    rw [eq_alone_of_mem_episodes h hx hn, eq_alone_of_mem_episodes h' hx' hn', hd, hd']
    exact ⟨rfl, rfl⟩
  · rw [eq_alone_of_mem_episodes h hx hn, eq_alone_of_mem_episodes h' hx' hn', hd, hd']
    exact ⟨rfl, rfl⟩

/-- A migration that makes the table of posts, or drops it. -/
def posts : Migration where
  up := [.call (.setName "posts"), .call (.column "title" .text), .call .create]
  down := [.call (.setName "posts"), .call .drop]

/-- A migration that leaves a foreign key without its table, either way. -/
def draft : Migration where
  up := [.call (.setName "drafts"), .call (.foreign "post_id"), .attempt (.call .create)]
  down := [.call (.setName "drafts"), .call (.foreign "post_id"), .call (.references "id")]

/-- After the draft was left twice, the table of posts is made as if there were no draft. -/
theorem posts_beside_draft :
    (("m2_posts", posts) ∈ (ofList [("m1_draft", draft), ("m2_posts", posts)]).entries ∧
      ("m2_posts", posts) ∈ (ofList [("m2_posts", posts)]).entries) ∧
    (Task.refresh.run (ofList [("m1_draft", draft), ("m2_posts", posts)])
        { dialect := .postgres, strict := true } {}).episodes.getLast? =
      (Task.migrate.run (ofList [("m2_posts", posts)])
        { dialect := .postgres, strict := true } {}).episodes.getLast? := by
  have hboth : ("m2_posts", posts) ∈ (ofList [("m1_draft", draft), ("m2_posts", posts)]).entries :=
    .tail _ (.head _)
  have hone : ("m2_posts", posts) ∈ (ofList [("m2_posts", posts)]).entries := .head _
  refine ⟨⟨hboth, hone⟩, ?_⟩
  obtain ⟨-, -, hsame⟩ := migrations_are_independent { dialect := .postgres, strict := true } .up
    "m2_posts" posts hboth hone
  have hfour : (Task.refresh.run (ofList [("m1_draft", draft), ("m2_posts", posts)])
      { dialect := .postgres, strict := true } {}).episodes.length = 3 + 1 := rfl
  have hsingle : (Task.migrate.run (ofList [("m2_posts", posts)])
      { dialect := .postgres, strict := true } {}).episodes.length = 0 + 1 := rfl
  rw [List.getLast?_eq_some_getLast (List.ne_nil_of_length_eq_add_one hfour),
    List.getLast?_eq_some_getLast (List.ne_nil_of_length_eq_add_one hsingle)]
  exact congrArg some (hsame .refresh .migrate {} {} _ (List.getLast_mem _) _ (List.getLast_mem _)
    rfl rfl rfl rfl).1

end Registry

end Schemata
