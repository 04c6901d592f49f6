import Schemata.Migration.Run

/-!
# What a run takes

A run works off an agenda: the migrations in the order of their names, each with its statement or
the error of its script.  Its sink takes the longest part of the agenda, from the start, whose
items all have statements and come before the refused place; the first item that is not taken
tells the error.

* `Registry.agenda`, `Task.agenda` — the agenda of one direction, and those of the three tasks;
* `Registry.map_inOrder` — a run visits what is on its agenda;
* `Agenda.accepted` — the part that is taken;
* `Run.Follows` — a run from any sink does what its agenda says.  Runs that follow their agendas
  can be put in a row (`Run.Follows.inRow`), which is how a refresh is made;
* `Task.run_takes_longest_prefix` — the statement for all tasks, registries and sinks.
-/

namespace Schemata

/-! ### Agendas -/

/-- A migration as a run comes to it. -/
structure Item where
  /-- The name of the migration. -/
  name : String
  /-- Which way it goes. -/
  direction : Direction
  /-- Its statement, or why there is none. -/
  text : Except TableError String

namespace Item

/-- The item of a migration under its name. -/
def ofEntry (mode : Mode) (direction : Direction) (entry : String × Migration) : Item :=
  { name := entry.1, direction, text := entry.2.render mode direction }

/-- The statement as the sink takes it. -/
def statement? (i : Item) : Option Statement :=
  i.text.toOption.map fun sql => { source := i.name, sql }

/-- The report of the migration once its statement is taken. -/
def report? (i : Item) : Option Report :=
  i.text.toOption.map fun sql => { name := i.name, direction := i.direction, sql }

/-- Why a run ends at the item in the given place. -/
inductive Fails (refusal : Option Refusal) (place : Nat) (i : Item) : TaskError → Prop
  /-- The item has no statement, whether the place is refused or not. -/
  | schema {e : TableError} (h : i.text = .error e) : Fails refusal place i (.schema i.name e)
  /-- The statement is handed to the sink, which refuses it. -/
  | sink {sql : String} {r : Refusal} (h : i.text = .ok sql) (hr : refusal = some r)
    (hp : r.index = place) :
    Fails refusal place i (.sink i.name (String.intercalate ": " r.failure.messages))

theorem Fails.unique {refusal : Option Refusal} {place : Nat} {i : Item} {e e' : TaskError}
    (h : i.Fails refusal place e) (h' : i.Fails refusal place e') : e = e' := by
  cases h with
  | schema ht =>
    cases h' with
    | schema ht' => cases ht.symm.trans ht'; rfl
    | sink ht' _ _ => cases ht.symm.trans ht'
  | sink ht hr _ =>
    cases h' with
    | schema ht' => cases ht.symm.trans ht'
    | sink _ hr' _ => cases hr.symm.trans hr'; rfl

end Item

namespace Registry

/-- The migrations in the order of their names, or the other way round, as items of the
direction. -/
def agenda (r : Registry) (mode : Mode) : Direction → List Item
  | .up => r.entries.map (.ofEntry mode .up)
  | .down => (r.entries.map (.ofEntry mode .down)).reverse

theorem agenda_up (r : Registry) (mode : Mode) :
    r.agenda mode .up = r.entries.map (.ofEntry mode .up) := rfl

theorem agenda_down (r : Registry) (mode : Mode) :
    r.agenda mode .down = (r.entries.map (.ofEntry mode .down)).reverse := rfl

/-- A run visits the migrations of its agenda, in its order. -/
theorem map_inOrder (r : Registry) (mode : Mode) (direction : Direction) :
    (r.inOrder direction).map (.ofEntry mode direction) = r.agenda mode direction := by
  cases direction with
  | up => rfl
  | down => rw [inOrder, agenda, List.map_reverse]

theorem length_agenda (r : Registry) (mode : Mode) (direction : Direction) :
    (r.agenda mode direction).length = r.entries.length := by
  cases direction <;> simp [agenda]

theorem pairwise_agenda_up (r : Registry) (mode : Mode) :
    (r.agenda mode .up).Pairwise (·.name < ·.name) :=
  List.pairwise_map.2 r.ascending

theorem pairwise_agenda_down (r : Registry) (mode : Mode) :
    (r.agenda mode .down).Pairwise (·.name > ·.name) :=
  List.pairwise_reverse.2 (List.pairwise_map.2 r.ascending)

end Registry

namespace Agenda

/-- Whether the item is taken in its place: it has a statement and the place comes before the
refused one. -/
def isAccepted (refusal : Option Refusal) (p : Item × Nat) : Bool :=
  p.1.text.isOk && refusal.all fun r => p.2 < r.index

/-- The items that are taken when the first of them comes to the given place. -/
def acceptedFrom (refusal : Option Refusal) (place : Nat) (items : List Item) : List Item :=
  ((items.zipIdx place).takeWhile (isAccepted refusal)).map Prod.fst

/-- The longest part of an agenda, from the start, whose items are all taken. -/
def accepted (refusal : Option Refusal) (items : List Item) : List Item :=
  acceptedFrom refusal 0 items

variable {refusal : Option Refusal} {place : Nat} {i : Item} {items : List Item}

theorem isAccepted_of_error {e : TableError} (ht : i.text = .error e) :
    isAccepted refusal (i, place) = false := by
  simp [isAccepted, ht, Except.isOk, Except.toBool]

theorem isAccepted_of_ok {sql : String} (ht : i.text = .ok sql) :
    isAccepted refusal (i, place) = refusal.all fun r => place < r.index := by
  simp [isAccepted, ht, Except.isOk, Except.toBool]

theorem exists_text_of_isAccepted (h : isAccepted refusal (i, place) = true) :
    ∃ sql, i.text = .ok sql := by
  cases ht : i.text with
  | error e => simp [isAccepted_of_error ht] at h
  | ok sql => exact ⟨sql, rfl⟩

theorem lt_of_isAccepted {r : Refusal} (h : isAccepted (some r) (i, place) = true) :
    place < r.index := by
  obtain ⟨sql, ht⟩ := exists_text_of_isAccepted h
  simpa [isAccepted_of_ok ht] using h

theorem acceptedFrom_cons_of_isAccepted (h : isAccepted refusal (i, place) = true) :
    acceptedFrom refusal place (i :: items) = i :: acceptedFrom refusal (place + 1) items := by
  simp [acceptedFrom, List.zipIdx_cons, h]

theorem acceptedFrom_cons_of_not_isAccepted (h : isAccepted refusal (i, place) = false) :
    acceptedFrom refusal place (i :: items) = [] := by
  simp [acceptedFrom, List.zipIdx_cons, h]

theorem acceptedFrom_prefix (refusal : Option Refusal) (place : Nat) (items : List Item) :
    acceptedFrom refusal place items <+: items := by
  have h := (List.takeWhile_prefix (l := items.zipIdx place) (isAccepted refusal)).map Prod.fst
  simpa [acceptedFrom] using h

/-- Either all items are taken or there is a first one that is not. -/
theorem eq_self_or_exists_cons (refusal : Option Refusal) (place : Nat) (items : List Item) :
    acceptedFrom refusal place items = items ∨
      ∃ i rest, items = acceptedFrom refusal place items ++ i :: rest := by
  obtain ⟨rest, hrest⟩ := acceptedFrom_prefix refusal place items
  cases rest with
  | nil => exact .inl (by rwa [List.append_nil] at hrest)
  | cons i rest => exact .inr ⟨i, rest, hrest.symm⟩

/-- Items after a part that is taken whole are taken as if the part had not been there. -/
theorem acceptedFrom_append_of_eq_self {first : List Item} (second : List Item)
    (h : acceptedFrom refusal place first = first) :
    acceptedFrom refusal place (first ++ second) =
      first ++ acceptedFrom refusal (place + first.length) second := by
  induction first generalizing place with
  | nil => simp
  | cons i first ih =>
    cases hi : isAccepted refusal (i, place) with
    | false => rw [acceptedFrom_cons_of_not_isAccepted hi] at h; cases h
    | true =>
      rw [acceptedFrom_cons_of_isAccepted hi] at h
      rw [List.cons_append, acceptedFrom_cons_of_isAccepted hi, ih (List.cons.inj h).2,
        List.length_cons, List.cons_append, Nat.add_assoc, Nat.add_comm 1]

/-- Items after a part that is not taken whole are not reached. -/
theorem acceptedFrom_append_of_ne_self {first : List Item} (second : List Item)
    (h : acceptedFrom refusal place first ≠ first) :
    acceptedFrom refusal place (first ++ second) = acceptedFrom refusal place first := by
  induction first generalizing place with
  | nil => exact absurd rfl h
  | cons i first ih =>
    cases hi : isAccepted refusal (i, place) with
    | false =>
      rw [List.cons_append, acceptedFrom_cons_of_not_isAccepted hi,
        acceptedFrom_cons_of_not_isAccepted hi]
    | true =>
      rw [acceptedFrom_cons_of_isAccepted hi] at h
      rw [List.cons_append, acceptedFrom_cons_of_isAccepted hi,
        acceptedFrom_cons_of_isAccepted hi, ih fun heq => h (by rw [heq])]

/-- Each item that is taken gives the sink one statement. -/
theorem length_filterMap_statement? (refusal : Option Refusal) (place : Nat)
    (items : List Item) :
    ((acceptedFrom refusal place items).filterMap Item.statement?).length =
      (acceptedFrom refusal place items).length := by
  induction items generalizing place with
  | nil => rfl
  | cons i items ih =>
    cases hi : isAccepted refusal (i, place) with
    | false => rw [acceptedFrom_cons_of_not_isAccepted hi]; rfl
    | true =>
      obtain ⟨sql, ht⟩ := exists_text_of_isAccepted hi
      simp [acceptedFrom_cons_of_isAccepted hi, Item.statement?, ht, Except.toOption, ih]

theorem place_add_length_acceptedFrom_le {r : Refusal} (h : place ≤ r.index) :
    place + (acceptedFrom (some r) place items).length ≤ r.index := by
  induction items generalizing place with
  | nil => simpa [acceptedFrom] using h
  | cons i items ih =>
    cases hi : isAccepted (some r) (i, place) with
    | false => simpa [acceptedFrom_cons_of_not_isAccepted hi] using h
    | true =>
      have hrest : place + 1 + (acceptedFrom (some r) (place + 1) items).length ≤ r.index :=
        ih (lt_of_isAccepted hi)
      rw [acceptedFrom_cons_of_isAccepted hi, List.length_cons]
      omega

end Agenda

/-! ### Sinks -/

namespace Sink

/-- The refused place is not behind the sink. -/
def IsOpen (k : Sink) : Prop :=
  ∀ r, k.refusal = some r → k.taken.length ≤ r.index

theorem isOpen_of_taken_eq_nil {k : Sink} (h : k.taken = []) : k.IsOpen := by
  intro r _
  simp [h]

theorem isOpen_new (refusal : Option Refusal) : IsOpen { refusal } :=
  isOpen_of_taken_eq_nil rfl

variable {k : Sink} {i : Item} {s : Statement}

theorem take_of_isAccepted (h : Agenda.isAccepted k.refusal (i, k.taken.length) = true) :
    k.take s = .ok { k with taken := k.taken ++ [s] } := by
  cases hr : k.refusal with
  | none => simp [take, hr]
  | some r =>
    rw [hr] at h
    have hne : r.index ≠ k.taken.length := Nat.ne_of_gt (Agenda.lt_of_isAccepted h)
    simp [take, hr, hne]

theorem isOpen_of_isAccepted (h : Agenda.isAccepted k.refusal (i, k.taken.length) = true) :
    IsOpen { k with taken := k.taken ++ [s] } := by
  intro r hr
  have hr' : k.refusal = some r := hr
  rw [hr'] at h
  rw [List.length_append, List.length_singleton]
  exact Agenda.lt_of_isAccepted h

/-- An open sink refuses a statement only in the refused place. -/
theorem take_of_not_isAccepted {sql : String} (hk : k.IsOpen) (ht : i.text = .ok sql)
    (h : Agenda.isAccepted k.refusal (i, k.taken.length) = false) :
    ∃ r, k.refusal = some r ∧ r.index = k.taken.length ∧ k.take s = .error r.failure := by
  rw [Agenda.isAccepted_of_ok ht] at h
  cases hr : k.refusal with
  | none => simp [hr] at h
  | some r =>
    have hge : r.index ≤ k.taken.length := by simpa [hr] using h
    have heq : r.index = k.taken.length := Nat.le_antisymm hge (hk r hr)
    exact ⟨r, rfl, heq, by simp [take, hr, heq]⟩

end Sink

/-! ### Runs and their agendas -/

/-- The run does what the agenda says, from the sink `k` on. -/
structure Run.Follows (run : Run (List Report)) (k : Sink) (items : List Item) : Prop where
  /-- The sink gets the statements of the accepted items. -/
  sink : run.sink = { k with
    taken := k.taken ++
      (Agenda.acceptedFrom k.refusal k.taken.length items).filterMap Item.statement? }
  /-- When all items are accepted, the run succeeds and reports them. -/
  done : Agenda.acceptedFrom k.refusal k.taken.length items = items →
    run.result = .ok (items.filterMap Item.report?)
  /-- Otherwise the first item that is not accepted makes the run fail. -/
  stopped : ∀ i rest, items = Agenda.acceptedFrom k.refusal k.taken.length items ++ i :: rest →
    ∃ e, run.result = .error e ∧ i.Fails k.refusal
      (k.taken.length + (Agenda.acceptedFrom k.refusal k.taken.length items).length) e

namespace Run.Follows

variable {run : Run (List Report)} {k : Sink} {items : List Item}

/-- The run succeeds exactly when all items are accepted. -/
theorem result_eq_ok_iff (h : run.Follows k items) {reports : List Report} :
    run.result = .ok reports ↔ Agenda.acceptedFrom k.refusal k.taken.length items = items ∧
      reports = items.filterMap Item.report? := by
  constructor
  · intro hr
    rcases Agenda.eq_self_or_exists_cons k.refusal k.taken.length items with hall | ⟨i, rest, hi⟩
    · exact ⟨hall, Except.ok.inj (hr.symm.trans (h.done hall))⟩
    · obtain ⟨e, he, -⟩ := h.stopped i rest hi
      cases hr.symm.trans he
  · rintro ⟨hall, rfl⟩
    exact h.done hall

/-- The run fails exactly with the error of the first item that is not accepted. -/
theorem result_eq_error_iff (h : run.Follows k items) {e : TaskError} :
    run.result = .error e ↔ ∃ i rest,
      items = Agenda.acceptedFrom k.refusal k.taken.length items ++ i :: rest ∧
      i.Fails k.refusal
        (k.taken.length + (Agenda.acceptedFrom k.refusal k.taken.length items).length) e := by
  constructor
  · intro hr
    rcases Agenda.eq_self_or_exists_cons k.refusal k.taken.length items with hall | ⟨i, rest, hi⟩
    · cases hr.symm.trans (h.done hall)
    · obtain ⟨e', he, hf⟩ := h.stopped i rest hi
      cases hr.symm.trans he
      exact ⟨i, rest, hi, hf⟩
  · rintro ⟨i, rest, hi, hf⟩
    obtain ⟨e', he, hf'⟩ := h.stopped i rest hi
    rw [he, hf.unique hf']

theorem isOpen (h : run.Follows k items) (hk : k.IsOpen) : run.sink.IsOpen := by
  rw [h.sink]
  intro r hr
  have hr' : k.refusal = some r := hr
  simp only [List.length_append, Agenda.length_filterMap_statement?, hr']
  exact Agenda.place_add_length_acceptedFrom_le (hk r hr')

theorem after (h : run.Follows k items) (e : Event) : (run.after e).Follows k items :=
  ⟨h.sink, h.done, h.stopped⟩

end Run.Follows

/-- A run that fails at its first item. -/
theorem Run.follows_of_fails {k : Sink} {i : Item} {items : List Item} {e : TaskError}
    {events : List Event} (h : Agenda.isAccepted k.refusal (i, k.taken.length) = false)
    (he : i.Fails k.refusal k.taken.length e) :
    Run.Follows { result := .error e, sink := k, events } k (i :: items) := by
  have hnil : Agenda.acceptedFrom k.refusal k.taken.length (i :: items) = [] :=
    Agenda.acceptedFrom_cons_of_not_isAccepted h
  refine ⟨by simp [hnil], fun hall => ?_, fun j rest hj => ⟨e, rfl, ?_⟩⟩
  · rw [hnil] at hall
    cases hall
  · rw [hnil] at hj ⊢
    cases hj
    exact he

/-- A run that goes on after its first item. -/
theorem Run.follows_of_taken {k : Sink} {i : Item} {items : List Item} {sql : String}
    {later : Run (List Report)} {events : List Event}
    (h : Agenda.isAccepted k.refusal (i, k.taken.length) = true) (ht : i.text = .ok sql)
    (hlater : later.Follows { k with taken := k.taken ++ [{ source := i.name, sql }] } items) :
    Run.Follows
      { result := later.result.map ({ name := i.name, direction := i.direction, sql } :: ·)
        sink := later.sink
        events } k (i :: items) := by
  -- the later items come one place further on
  obtain ⟨hsink, hdone, hstopped⟩ := hlater
  simp only [List.length_append, List.length_singleton] at hsink hdone hstopped
  have hcons : Agenda.acceptedFrom k.refusal k.taken.length (i :: items) =
      i :: Agenda.acceptedFrom k.refusal (k.taken.length + 1) items :=
    Agenda.acceptedFrom_cons_of_isAccepted h
  refine ⟨?_, fun hall => ?_, fun j rest hj => ?_⟩
  · simp [hcons, hsink, Item.statement?, ht, Except.toOption]
  · rw [hcons] at hall
    simp [hdone (List.cons.inj hall).2, Except.map, Item.report?, ht, Except.toOption]
  · rw [hcons] at hj ⊢
    obtain ⟨e, hr, hf⟩ := hstopped j rest (List.cons.inj hj).2
    refine ⟨e, by simp [hr, Except.map], ?_⟩
    rwa [List.length_cons, Nat.add_comm _ 1, ← Nat.add_assoc]

namespace Registry

/-- Visiting migrations follows their agenda. -/
theorem visit_follows {mode : Mode} {direction : Direction} {k : Sink} (hk : k.IsOpen)
    (entries : List (String × Migration)) :
    (visit mode direction k entries).Follows k (entries.map (.ofEntry mode direction)) := by
  induction entries generalizing k with
  | nil => exact ⟨by simp [visit, Agenda.acceptedFrom], fun _ => rfl, by simp⟩
  | cons entry entries ih =>
    obtain ⟨name, m⟩ := entry
    rw [List.map_cons, visit]
    cases ht : m.render mode direction with
    | error e =>
      have hi : (Item.ofEntry mode direction (name, m)).text = .error e := ht
      exact Run.follows_of_fails (Agenda.isAccepted_of_error hi) (.schema hi)
    | ok sql =>
      have hi : (Item.ofEntry mode direction (name, m)).text = .ok sql := ht
      cases ha : Agenda.isAccepted k.refusal (.ofEntry mode direction (name, m),
          k.taken.length) with
      | false =>
        obtain ⟨r, hr, hp, htake⟩ := Sink.take_of_not_isAccepted (s := ⟨name, sql⟩) hk hi ha
        simp only [htake]
        exact Run.follows_of_fails ha (.sink hi hr hp)
      | true =>
        have htake := Sink.take_of_isAccepted (s := ⟨name, sql⟩) ha
        simp only [htake]
        exact Run.follows_of_taken ha hi (ih (Sink.isOpen_of_isAccepted ha))

theorem run_follows {r : Registry} {mode : Mode} {direction : Direction} {k : Sink}
    (hk : k.IsOpen) : (r.run mode direction k).Follows k (r.agenda mode direction) := by
  rw [← map_inOrder]
  exact (visit_follows hk _).after _

end Registry

/-! ### Runs in a row -/

namespace Run

/-- Two runs with one sink, whose reports are put together. -/
def inRow (first : Run (List Report)) (second : Sink → Run (List Report)) : Run (List Report) :=
  first.andThen fun back k => (second k).andThen fun forth k =>
    { result := .ok (back ++ forth), sink := k, events := [] }

variable {first : Run (List Report)} {second : Sink → Run (List Report)}

theorem inRow_of_error {e : TaskError} (h : first.result = .error e) :
    first.inRow second = first := by
  cases first
  simp_all [inRow, andThen]

theorem sink_inRow_of_ok {back : List Report} (h : first.result = .ok back) :
    (first.inRow second).sink = (second first.sink).sink := by
  cases h' : (second first.sink).result <;> simp [inRow, andThen, h, h']

theorem result_inRow_of_ok {back : List Report} (h : first.result = .ok back) :
    (first.inRow second).result = (second first.sink).result.map (back ++ ·) := by
  cases h' : (second first.sink).result <;> simp [inRow, andThen, h, h', Except.map]

namespace Follows

variable {k : Sink} {items items' : List Item}

/-- The second of two runs begins where the first leaves the sink. -/
theorem inRow_of_all (hk : k.IsOpen) (h : first.Follows k items)
    (h' : ∀ k', k'.IsOpen → (second k').Follows k' items')
    (hall : Agenda.acceptedFrom k.refusal k.taken.length items = items) :
    (first.inRow second).Follows k (items ++ items') := by
  have hr := h.done hall
  -- what the second run says of its own sink, told from the sink `k`
  obtain ⟨hsink, hdone, hstopped⟩ := h' first.sink (h.isOpen hk)
  have hfirst := h.sink
  have hplace := Agenda.length_filterMap_statement? k.refusal k.taken.length items
  rw [hall] at hfirst hplace
  rw [hfirst] at hsink hdone hstopped
  simp only [List.length_append, hplace] at hsink hdone hstopped
  have hacc := Agenda.acceptedFrom_append_of_eq_self items' hall
  refine ⟨?_, fun hwhole => ?_, fun i rest hi => ?_⟩
  · rw [sink_inRow_of_ok hr, hfirst, hsink, hacc, List.filterMap_append, List.append_assoc]
  · rw [hacc] at hwhole
    rw [result_inRow_of_ok hr, hfirst, hdone (List.append_cancel_left hwhole)]
    simp [Except.map]
  · rw [hacc, List.append_assoc] at hi
    obtain ⟨e, he, hf⟩ := hstopped i rest (List.append_cancel_left hi)
    refine ⟨e, ?_, ?_⟩
    · rw [result_inRow_of_ok hr, hfirst, he]
      rfl
    · rwa [hacc, List.length_append, ← Nat.add_assoc]

/-- The second of two runs does not begin if the first fails. -/
theorem inRow_of_not_all (h : first.Follows k items)
    (hall : Agenda.acceptedFrom k.refusal k.taken.length items ≠ items) :
    (first.inRow second).Follows k (items ++ items') := by
  have hsame := Agenda.acceptedFrom_append_of_ne_self items' hall
  obtain ⟨i, tail, hrest⟩ :=
    (Agenda.eq_self_or_exists_cons k.refusal k.taken.length items).resolve_left hall
  obtain ⟨e, hr, hf⟩ := h.stopped i tail hrest
  rw [inRow_of_error hr]
  have hlist : items ++ items' =
      Agenda.acceptedFrom k.refusal k.taken.length items ++ i :: (tail ++ items') := by
    rw [← List.cons_append, ← List.append_assoc, ← hrest]
  refine ⟨?_, fun hwhole => ?_, fun j rest' hj => ⟨e, hr, ?_⟩⟩
  · rw [hsame]
    exact h.sink
  · rw [hsame, hlist] at hwhole
    simp at hwhole
  · rw [hsame, hlist] at hj
    rw [hsame]
    cases List.append_cancel_left hj
    exact hf

/-- Two runs in a row follow the one agenda after the other. -/
theorem inRow (hk : k.IsOpen) (h : first.Follows k items)
    (h' : ∀ k', k'.IsOpen → (second k').Follows k' items') :
    (first.inRow second).Follows k (items ++ items') := by
  by_cases hall : Agenda.acceptedFrom k.refusal k.taken.length items = items
  · exact inRow_of_all hk h h' hall
  · exact inRow_of_not_all h hall

end Follows

end Run

/-! ### The three tasks -/

/-- What a registry can be asked to do. -/
inductive Task where
  /-- Applies every migration. -/
  | migrate
  /-- Takes every migration back. -/
  | rollback
  /-- Takes everything back and applies it again. -/
  | refresh

namespace Task

/-- The run of the task. -/
def run : Task → Registry → Mode → Sink → Run (List Report)
  | migrate => Registry.migrate
  | rollback => Registry.rollback
  | refresh => Registry.refresh

/-- The agenda of the task. -/
def agenda (r : Registry) (mode : Mode) : Task → List Item
  | migrate => r.agenda mode .up
  | rollback => r.agenda mode .down
  | refresh => r.agenda mode .down ++ r.agenda mode .up

/-- Every task follows its agenda. -/
theorem follows_agenda (task : Task) (r : Registry) (mode : Mode) {k : Sink} (hk : k.IsOpen) :
    (task.run r mode k).Follows k (task.agenda r mode) := by
  cases task with
  | migrate => exact Registry.run_follows hk
  | rollback => exact Registry.run_follows hk
  | refresh => exact Run.Follows.inRow hk (Registry.run_follows hk) fun _ => Registry.run_follows

/-- **Runs take the longest acceptable prefix.**  The agenda forwards has an item for each migration
of the registry and its names ascend; the agenda backwards is the other way round.  The sink of a
task gets the statements of the longest part of the agenda, from the start, whose items have
statements and come before the refused place, each with the name of its migration.  The task
succeeds exactly when that is the whole agenda, which it then reports, and fails with the error of
the first item that is left.  A refresh that does not get through its backward half takes nothing of
the forward one. -/
theorem run_takes_longest_prefix (task : Task) (r : Registry) (mode : Mode)
    (refusal : Option Refusal) :
    (r.agenda mode .up = r.entries.map (.ofEntry mode .up) ∧
      r.agenda mode .down = (r.entries.map (.ofEntry mode .down)).reverse ∧
      (r.agenda mode .up).Pairwise (·.name < ·.name) ∧
      (r.agenda mode .down).Pairwise (·.name > ·.name)) ∧
    (task.run r mode { refusal }).sink =
      { taken := (Agenda.accepted refusal (task.agenda r mode)).filterMap Item.statement?
        refusal } ∧
    (∀ reports, (task.run r mode { refusal }).result = .ok reports ↔
      Agenda.accepted refusal (task.agenda r mode) = task.agenda r mode ∧
        reports = (task.agenda r mode).filterMap Item.report?) ∧
    (∀ e, (task.run r mode { refusal }).result = .error e ↔
      ∃ i rest, task.agenda r mode = Agenda.accepted refusal (task.agenda r mode) ++ i :: rest ∧
        i.Fails refusal (Agenda.accepted refusal (task.agenda r mode)).length e) ∧
    (Agenda.accepted refusal (rollback.agenda r mode) = rollback.agenda r mode ∨
      Agenda.accepted refusal (refresh.agenda r mode) =
        Agenda.accepted refusal (rollback.agenda r mode)) := by
  have h := follows_agenda task r mode (Sink.isOpen_of_taken_eq_nil (k := { refusal }) rfl)
  refine ⟨⟨r.agenda_up mode, r.agenda_down mode, r.pairwise_agenda_up mode,
    r.pairwise_agenda_down mode⟩, ?_, fun _ => h.result_eq_ok_iff, fun e => ?_, ?_⟩
  · simpa [Agenda.accepted] using h.sink
  · simpa [Agenda.accepted] using h.result_eq_error_iff
  · by_cases hall : Agenda.accepted refusal (rollback.agenda r mode) = rollback.agenda r mode
    · exact .inl hall
    · exact .inr (Agenda.acceptedFrom_append_of_ne_self _ hall)

end Task

end Schemata
