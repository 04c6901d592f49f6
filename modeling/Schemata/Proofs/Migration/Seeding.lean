import Schemata.Proofs.Migration.Agenda

/-!
# Seeding

A seeder hands its statements to the sink one after the other and may then fail by itself.  An open
sink takes those before the refused place, which is counted from the first statement that it ever
took, so it does not matter to the seeder who was there before.

* `Sink.upTo` — of statements in a row, those that a sink takes;
* `Seeder.Fails`, `Seeder.run_fst_eq_some_iff` — how a seeder fails;
* `Seeder.seed_sink`, `Seeder.seed_of_fails`, `Seeder.seed_of_not_fails` — a seeder as a run;
* `Run.Unseeded`, `Task.run_unseeded` — runs of migrations tell nothing about seeding.
-/

namespace Schemata

/-! ### Statements in a row -/

namespace Sink

variable {k : Sink}

/-- Of statements in order, those before the refused place. -/
def upTo (refusal : Option Refusal) (ss : List Statement) : List Statement :=
  match refusal with
  | none => ss
  | some r => ss.take r.index

/-- What is in an open sink comes before the refused place. -/
theorem IsOpen.upTo_taken (hk : k.IsOpen) : upTo k.refusal k.taken = k.taken := by
  cases hr : k.refusal with
  | none => rfl
  | some r => exact List.take_of_length_le (hk r hr)

/-- What is in an open sink stays there. -/
theorem IsOpen.prefix_upTo_append (hk : k.IsOpen) (ss : List Statement) :
    k.taken <+: upTo k.refusal (k.taken ++ ss) := by
  cases hr : k.refusal with
  | none => exact List.prefix_append _ _
  | some r => exact List.prefix_take_iff.2 ⟨List.prefix_append _ _, hk r hr⟩

/-- Nothing gets past a refused place that is next. -/
theorem upTo_append_of_refused {r : Refusal} (hr : k.refusal = some r)
    (hindex : r.index = k.taken.length) (ss : List Statement) :
    upTo k.refusal (k.taken ++ ss) = k.taken := by
  simp [upTo, hr, hindex]

/-- An open sink refuses a statement in the refused place, and takes one before it. -/
theorem take_cases (hk : k.IsOpen) (s : Statement) :
    (∃ r, k.refusal = some r ∧ r.index = k.taken.length ∧ k.take s = .error r.failure) ∨
    IsOpen { k with taken := k.taken ++ [s] } ∧
      k.take s = .ok { k with taken := k.taken ++ [s] } := by
  obtain ⟨taken, refusal⟩ := k
  cases refusal with
  | none => exact .inr ⟨nofun, rfl⟩
  | some r =>
    by_cases heq : r.index = taken.length
    · exact .inl ⟨r, rfl, heq, by simp [take, heq]⟩
    · refine .inr ⟨?_, by simp [take, heq]⟩
      rintro _ ⟨⟩
      have hle : taken.length ≤ r.index := hk r rfl
      simp only [List.length_append, List.length_singleton]
      omega

end Sink

/-! ### How a seeder fails -/

namespace Seeder

variable {k : Sink} {f : Failure} {seeder : Seeder}

/-- The sink keeps the statements before the refused place. -/
theorem takeAll_snd (hk : k.IsOpen) (ss : List Statement) :
    (takeAll k ss).2 = { k with taken := Sink.upTo k.refusal (k.taken ++ ss) } := by
  induction ss generalizing k with
  | nil => simp [takeAll, hk.upTo_taken]
  | cons s rest ih =>
    rw [takeAll]
    rcases Sink.take_cases hk s with ⟨r, hr, hindex, htake⟩ | ⟨hk', htake⟩
    · -- the refused place is that of `s`, and `rest` comes behind it
      simp only [htake, Sink.upTo_append_of_refused hr hindex]
    · simp [htake, ih hk']

/-- The sink refuses one of the statements if the refused place is among them. -/
theorem takeAll_fst_eq_some_iff (hk : k.IsOpen) (ss : List Statement) :
    (takeAll k ss).1 = some f ↔
      ∃ r, k.refusal = some r ∧ r.index < k.taken.length + ss.length ∧ f = r.failure := by
  induction ss generalizing k with
  | nil =>
    have hopen (r : Refusal) (hr : k.refusal = some r) : ¬ r.index < k.taken.length :=
      Nat.not_lt.2 (hk r hr)
    simp only [takeAll, List.length_nil, Nat.add_zero]
    exact ⟨nofun, fun ⟨r, hr, hlt, _⟩ => absurd hlt (hopen r hr)⟩
  | cons s rest ih =>
    rw [takeAll]
    rcases Sink.take_cases hk s with ⟨r, hr, hindex, htake⟩ | ⟨hk', htake⟩
    · simp [htake, hr, hindex, eq_comm]
    · simp [htake, ih hk', Nat.add_assoc, Nat.add_comm 1]

/-- How the seeder fails on a sink with so many statements in it. -/
inductive Fails (refusal : Option Refusal) (place : Nat) (seeder : Seeder) : Failure → Prop
  /-- The sink refuses one of the statements. -/
  | refused {r : Refusal} (hr : refusal = some r)
    (h : r.index < place + seeder.statements.length) : Fails refusal place seeder r.failure
  /-- All statements are taken, and the seeder fails by itself. -/
  | own {f : Failure} (h : ∀ r, refusal = some r → place + seeder.statements.length ≤ r.index)
    (hf : seeder.failure = some f) : Fails refusal place seeder f

theorem run_snd (hk : k.IsOpen) (seeder : Seeder) (d : Dialect) :
    (seeder.run d k).2 =
      { k with taken := Sink.upTo k.refusal (k.taken ++ seeder.statements.map (fill d)) } := by
  have htaken := takeAll_snd hk (seeder.statements.map (fill d))
  rw [run]
  split <;> simp_all

theorem run_fst_eq_some_iff (hk : k.IsOpen) (seeder : Seeder) (d : Dialect) :
    (seeder.run d k).1 = some f ↔ seeder.Fails k.refusal k.taken.length f := by
  have hrefused (f : Failure) := takeAll_fst_eq_some_iff (f := f) hk
    (seeder.statements.map (fill d))
  rw [List.length_map] at hrefused
  rw [run]
  cases htake : takeAll k (seeder.statements.map (fill d)) with
  | mk failure k' =>
    rw [htake] at hrefused
    cases failure with
    | some f' =>
      -- the sink came first, so the failure of the seeder itself does not show
      obtain ⟨r, hr, hlt, rfl⟩ := (hrefused f').1 rfl
      constructor
      · rintro ⟨⟩
        exact .refused hr hlt
      · rintro (⟨hr', -⟩ | ⟨hle, -⟩)
        · cases hr.symm.trans hr'
          rfl
        · exact absurd (hle r hr) (Nat.not_le.2 hlt)
    | none =>
      constructor
      · intro hf
        refine .own (fun r hr => Nat.not_lt.1 fun hlt => ?_) hf
        cases (hrefused r.failure).2 ⟨r, hr, hlt, rfl⟩
      · rintro (⟨hr, hlt⟩ | ⟨-, hf⟩)
        · cases (hrefused _).2 ⟨_, hr, hlt, rfl⟩
        · exact hf

/-! ### A seeder as a run -/

theorem seed_sink (hk : k.IsOpen) (seeder : Seeder) (d : Dialect) :
    (seeder.seed d k).sink =
      { k with taken := Sink.upTo k.refusal (k.taken ++ seeder.statements.map (fill d)) } := by
  rw [← run_snd hk seeder d, seed]
  split <;> simp_all

/-- A seeder that fails tells all messages of the failure. -/
theorem seed_of_fails (hk : k.IsOpen) (d : Dialect)
    (h : seeder.Fails k.refusal k.taken.length f) :
    (seeder.seed d k).result = .error (.seeder (String.intercalate ": " f.messages)) ∧
      (seeder.seed d k).events = [] := by
  have hfailure := (run_fst_eq_some_iff hk seeder d).2 h
  rw [seed]
  split <;> simp_all [Failure.text]

/-- A seeder that does not fail tells that it is done. -/
theorem seed_of_not_fails (hk : k.IsOpen) (d : Dialect)
    (h : ∀ f, ¬ seeder.Fails k.refusal k.taken.length f) :
    (seeder.seed d k).result = .ok () ∧ (seeder.seed d k).events = [.seeded] := by
  have hnone : (seeder.run d k).1 = none :=
    Option.eq_none_iff_forall_ne_some.2 fun f hf => h f ((run_fst_eq_some_iff hk seeder d).1 hf)
  rw [seed]
  split <;> simp_all

end Seeder

/-! ### Events -/

/-- Whether the event tells about seeding. -/
def Event.ofSeeding : Event → Bool
  | .seeded | .noSeeder => true
  | _ => false

namespace Run

variable {α : Type}

/-- Whether the run tells nothing about seeding. -/
def Unseeded (run : Run α) : Prop :=
  ∀ e ∈ run.events, e.ofSeeding = false

theorem Unseeded.andThen {β : Type} {first : Run α} {next : α → Sink → Run β}
    (h : first.Unseeded) (h' : ∀ a k, (next a k).Unseeded) : (first.andThen next).Unseeded := by
  unfold Run.andThen
  split
  next => exact h
  next a _ => exact List.forall_mem_append.2 ⟨h, h' a first.sink⟩

end Run

namespace Registry

theorem visit_unseeded (mode : Mode) (direction : Direction) (k : Sink)
    (entries : List (String × Migration)) : (visit mode direction k entries).Unseeded := by
  have htold (m : Migration) : ∀ e ∈ m.events mode direction, e.ofSeeding = false := by
    simp [Migration.events, Event.ofSeeding]
  induction entries generalizing k with
  | nil => exact List.forall_mem_nil _
  | cons entry entries ih =>
    obtain ⟨name, m⟩ := entry
    rw [visit]
    cases m.render mode direction with
    | error e => exact htold m
    | ok sql =>
      have happlying : ∀ e ∈ m.events mode direction ++ [.applying name sql],
          e.ofSeeding = false :=
        List.forall_mem_append.2 ⟨htold m, by simp [Event.ofSeeding]⟩
      cases htake : k.take ⟨name, sql⟩ with
      | error f => simpa [Run.Unseeded, htake] using happlying
      | ok k' =>
        simp only [Run.Unseeded, htake]
        exact List.forall_mem_append.2 ⟨happlying, List.forall_mem_cons.2 ⟨rfl, ih k'⟩⟩

theorem run_unseeded (r : Registry) (mode : Mode) (direction : Direction) (k : Sink) :
    (r.run mode direction k).Unseeded :=
  List.forall_mem_cons.2 ⟨rfl, visit_unseeded mode direction k _⟩

end Registry

theorem Task.run_unseeded (task : Task) (r : Registry) (mode : Mode) (k : Sink) :
    (task.run r mode k).Unseeded := by
  cases task with
  | migrate => exact r.run_unseeded mode .up k
  | rollback => exact r.run_unseeded mode .down k
  | refresh =>
    exact (r.run_unseeded mode .down k).andThen fun _ k' =>
      (r.run_unseeded mode .up k').andThen fun _ _ => List.forall_mem_nil _

end Schemata
