import Schemata.Proofs.Table.Invariant

/-!
# Stages of foreign keys

A foreign key is built in order: the referenced column, then the referenced table, then at most the
clause for deleted rows.  Every modifier looks at the stage of the key, so there is one modifier
for each stage, and it takes the key to a later one.

* `ForeignKey.Step` — all that an accepted modifier can do to a foreign key;
* `ForeignKey.IsOrderly`, `ForeignKey.Grows` — what every step keeps, and what it never takes back;
* `Table.Advises`, `Table.Heeds` — the errors that tell the next modifier, and the calls that do
  as told;
* `Table.foreignKeys_advance` — the stages along every run that builds its fragments by calls, the
  statements of its tables, and where the advice leads.
-/

namespace Schemata

namespace ForeignKey

/-! ### Steps -/

/-- How far the stage is from the first. -/
def Stage.rank : Stage → ℕ
  | .awaitingReferences => 0
  | .awaitingOn => 1
  | .complete => 2

/-- The key `k'` is what the modifier makes of `k`, which is at the stage of the modifier. -/
inductive Step (k : ForeignKey) : Call → ForeignKey → Prop
  /-- The referenced column comes first. -/
  | references {column : String} (h : k.stage = .awaitingReferences) :
    Step k (.references column) { k with references := some column }
  /-- The referenced table comes second. -/
  | on {table : String} (h : k.stage = .awaitingOn) :
    Step k (.on table) { k with table := some table }
  /-- The clause for deleted rows comes last. -/
  | cascadeOnDelete (h : k.stage = .complete) :
    Step k .cascadeOnDelete { k with cascadeOnDelete := true }

/-- The parts of the key were set in order. -/
structure IsOrderly (k : ForeignKey) : Prop where
  /-- The referenced table is set after the referenced column. -/
  table : k.table.isSome → k.references.isSome
  /-- The clause for deleted rows is set after both. -/
  cascadeOnDelete : k.cascadeOnDelete = true → k.stage = .complete

/-- The key `k'` is `k` with nothing taken back. -/
structure Grows (k k' : ForeignKey) : Prop where
  /-- The local column is the same. -/
  column : k'.column = k.column
  /-- The referenced column is the same once it is set. -/
  references : ∀ r, k.references = some r → k'.references = some r
  /-- The referenced table is the same once it is set. -/
  table : ∀ n, k.table = some n → k'.table = some n

variable {k k' k'' : ForeignKey} {c : Call}

theorem references_eq_none_of_stage (h : k.stage = .awaitingReferences) : k.references = none := by
  cases hr : k.references <;> cases ht : k.table <;> simp_all [stage]

theorem stage_eq_awaitingOn_iff :
    k.stage = .awaitingOn ↔ k.references.isSome ∧ k.table = none := by
  cases hr : k.references <;> cases ht : k.table <;> simp [stage, hr, ht]

theorem Grows.refl (k : ForeignKey) : k.Grows k := ⟨rfl, fun _ h => h, fun _ h => h⟩

theorem Grows.trans (h : k.Grows k') (h' : k'.Grows k'') : k.Grows k'' :=
  ⟨h'.column.trans h.column, fun r hr => h'.references r (h.references r hr),
    fun n hn => h'.table n (h.table n hn)⟩

/-- A stage is told by the parts that are set, so it does not go back unless one of them is lost. -/
theorem Grows.rank_stage_le (h : k.Grows k') : k.stage.rank ≤ k'.stage.rank := by
  cases hr : k.references with
  | none =>
    have hk : k.stage.rank = 0 := by simp [stage, hr, Stage.rank]
    omega
  | some r =>
    have hr' := h.references r hr
    cases ht : k.table with
    | none => cases ht' : k'.table <;> simp [stage, hr, ht, hr', ht', Stage.rank]
    | some n => simp [stage, hr, ht, hr', h.table n ht]

theorem Step.grows (h : k.Step c k') : k.Grows k' := by
  cases h with
  | references hk =>
    refine ⟨rfl, fun r hr => ?_, fun _ hn => hn⟩
    simp [references_eq_none_of_stage hk] at hr
  | on hk =>
    refine ⟨rfl, fun _ hr => hr, fun n hn => ?_⟩
    simp [(stage_eq_awaitingOn_iff.1 hk).2] at hn
  | cascadeOnDelete => exact ⟨rfl, fun _ hr => hr, fun _ hn => hn⟩

theorem Step.isOrderly (h : k.Step c k') (hk : k.IsOrderly) : k'.IsOrderly := by
  cases h with
  | references hs =>
    refine ⟨fun _ => rfl, fun hcascade => ?_⟩
    -- no key has the clause at its first stage
    cases hs.symm.trans (hk.cascadeOnDelete hcascade)
  | on hs =>
    refine ⟨fun _ => (stage_eq_awaitingOn_iff.1 hs).1, fun hcascade => ?_⟩
    cases hs.symm.trans (hk.cascadeOnDelete hcascade)
  | cascadeOnDelete hs => exact ⟨hk.table, fun _ => hs⟩

/-- One step takes a key to its last stage, or from the first to the second. -/
theorem Step.stage_eq (h : k.Step c k') :
    k'.stage = .complete ∨ k.stage = .awaitingReferences ∧ k'.stage = .awaitingOn := by
  cases h with
  | references hk =>
    cases ht : k.table with
    | none => exact .inr ⟨hk, by simp [stage]⟩
    | some n => exact .inl (by simp [stage])
  | on hk =>
    obtain ⟨r, hr⟩ := Option.isSome_iff_exists.1 (stage_eq_awaitingOn_iff.1 hk).1
    exact .inl (by simp [stage, hr])
  | cascadeOnDelete hk => exact .inl hk

/-- Every call of the modifier that the stage expects is a step. -/
theorem exists_step (hc : c.modifier? = some k.stage.expected) :
    ∃ k', k.Step c k' ∧ c.change (.foreignKey k) = .foreignKey k' := by
  cases hs : k.stage <;> rw [hs] at hc <;> cases c <;> cases hc
  · exact ⟨_, .references hs, rfl⟩
  · exact ⟨_, .on hs, rfl⟩
  · exact ⟨_, .cascadeOnDelete hs, rfl⟩

end ForeignKey

namespace Modifier

variable {m : Modifier}

theorem stage?_eq_some_iff {s : ForeignKey.Stage} : m.stage? = some s ↔ m = s.expected := by
  cases m <;> cases s <;> simp [stage?, ForeignKey.Stage.expected]

/-- A modifier is of columns, of foreign keys, or puts any fragment in place of the last. -/
theorem forColumns_of_stage?_eq_none (hs : m.stage? = none) (hm : m ≠ .setLast) :
    m.forColumns = true := by
  cases m <;> simp_all [stage?, forColumns]

end Modifier

namespace Table

variable {t : Table} {c : Call} {cs : List Call} {k : ForeignKey} {sql : Option String} {i : ℕ}

/-! ### Steps of tables -/

/-- An accepted modifier of a foreign key is a step of the key. -/
theorem step_of_reply_eq_ok (hraw : c.isRaw = false) (hm : c.isModifier = true)
    (h : (t.perform c).reply = .ok sql) (hl : t.fragments.getLast? = some (.foreignKey k)) :
    ∃ k', k.Step c k' ∧ c.change (.foreignKey k) = .foreignKey k' := by
  have hfits := (exists_reply_eq_ok_iff.1 ⟨sql, h⟩).1
  obtain ⟨m, hc⟩ := Option.isSome_iff_exists.1 hm
  cases hs : m.stage? with
  | none =>
    have hset : m ≠ .setLast := by
      rintro rfl
      cases c <;> cases hc
      cases hraw
    have hcolumns := Modifier.forColumns_of_stage?_eq_none hs hset
    exact absurd (.notAColumn hc hcolumns hl) (hfits _)
  | some s =>
    obtain rfl : k.stage = s := by_contra fun hk => hfits _ (.outOfOrder hc hs hl hk)
    exact ForeignKey.exists_step (Modifier.stage?_eq_some_iff.1 hs ▸ hc)

theorem isOrderly_of_mem_added (hraw : c.isRaw = false) (h : .foreignKey k ∈ c.added) :
    k.IsOrderly := by
  cases c with
  | foreign column =>
    obtain rfl : k = { column } := by simpa [Call.added] using h
    exact ⟨by simp, by simp⟩
  | append f => cases hraw
  | _ => simp [Call.added] at h

theorem exists_change_column (hraw : c.isRaw = false) (col : Column) :
    ∃ col', c.change (.column col) = .column col' := by
  cases c <;> first | exact ⟨_, rfl⟩ | cases hraw

/-- Keys that are built by calls are built in order. -/
theorem IsBuilt.isOrderly (h : t.IsBuilt) (hk : .foreignKey k ∈ t.fragments) : k.IsOrderly := by
  obtain ⟨o, cs, hcs, rfl⟩ := h
  have hall : ∀ f ∈ (o.table.after cs).fragments, ∀ k, f = .foreignKey k → k.IsOrderly := by
    refine after_induction (P := fun t => ∀ f ∈ t.fragments, ∀ k, f = .foreignKey k → k.IsOrderly)
      (by simp [fragments_origin]) ?_ hcs
    intro t c sql hraw h ht
    rw [table_of_reply_eq_ok h]
    refine Call.forall_mem_reshape ht (fun f hf k hk => ?_) fun hm f hl hf k' hk' => ?_
    · exact isOrderly_of_mem_added hraw (hk ▸ hf)
    · cases f with
      | column col =>
        obtain ⟨col', hcol⟩ := exists_change_column hraw col
        cases hcol.symm.trans hk'
      | foreignKey k =>
        obtain ⟨k'', hstep, hk''⟩ := step_of_reply_eq_ok hraw hm h hl
        obtain rfl : k'' = k' := by simpa using hk''.symm.trans hk'
        exact hstep.isOrderly (hf k rfl)
  exact hall _ hk k rfl

/-- Unless the fragments are taken away, an accepted call takes nothing back from a key. -/
theorem grows_of_reply_eq_ok (hraw : c.isRaw = false) (hcl : c.clears = false)
    (h : (t.perform c).reply = .ok sql) (hk : t.fragments[i]? = some (.foreignKey k)) :
    ∃ k', (t.perform c).table.fragments[i]? = some (.foreignKey k') ∧ k.Grows k' := by
  rw [table_of_reply_eq_ok h]
  rcases Call.getElem?_reshape hcl hk with hsame | ⟨hm, hl, hchanged⟩
  · exact ⟨k, hsame, .refl k⟩
  · obtain ⟨k', hstep, hk'⟩ := step_of_reply_eq_ok hraw hm h hl
    exact ⟨k', hk' ▸ hchanged, hstep.grows⟩

theorem clears_eq_false_of_taken? (h : (t.perform c).reply = .ok sql) (ht : t.taken? c = none) :
    c.clears = false := by
  by_contra hc
  obtain ⟨b, hb, -⟩ := taken?_of_clears (by simpa using hc) h
  cases hb.symm.trans ht

/-- As long as a key is pending, nothing is taken back from it. -/
theorem grows_after (hcs : ∀ c ∈ cs, c.isRaw = false) (hb : t.batches cs = [])
    (hk : t.fragments[i]? = some (.foreignKey k)) :
    ∃ k', (t.after cs).fragments[i]? = some (.foreignKey k') ∧ k.Grows k' := by
  induction cs using List.reverseRecOn with
  | nil => exact ⟨k, hk, .refl k⟩
  | append_singleton cs c ih =>
    rw [batches_append_singleton, List.append_eq_nil_iff, Option.toList_eq_nil_iff] at hb
    obtain ⟨k', hk', hgrows⟩ := ih (fun c hc => hcs c (List.mem_append_left _ hc)) hb.1
    rw [after_append_singleton]
    cases hr : ((t.after cs).perform c).reply with
    | error e =>
      rw [keeps_perform _ c e hr]
      exact ⟨k', hk', hgrows⟩
    | ok sql =>
      have hcl := clears_eq_false_of_taken? hr hb.2
      obtain ⟨k'', hk'', hgrows'⟩ := grows_of_reply_eq_ok (hcs c (by simp)) hcl hr hk'
      exact ⟨k'', hk'', hgrows.trans hgrows'⟩

/-! ### Advice -/

/-- A call that fails tells which modifier the last fragment, a foreign key, expects. -/
inductive Advises (t : Table) (m : Modifier) : Prop
  /-- Another modifier of foreign keys was called. -/
  | outOfOrder {c : Call} {called : Modifier} {column : String}
    (h : (t.perform c).reply = .error (.foreignKeyOutOfOrder called m column))
  /-- The statement was asked for, and only the last fragment stands in its way. -/
  | incomplete {before : List Fragment} {last : Fragment} {column : String}
    (ht : t.fragments = before ++ [last]) (hb : ∀ f ∈ before, f.IsComplete)
    (h : (t.perform .create).reply = .error (.incompleteForeignKey column m))

/-- The call is the one that an error told, with a valid identifier if the table asks for it. -/
structure Heeds (t : Table) (c : Call) : Prop where
  /-- The modifier is the one of the error. -/
  advised : ∃ m, t.Advises m ∧ c.modifier? = some m
  /-- A strict table gets a valid identifier. -/
  valid : t.strict = true → ∀ i, c.identifier? = some i → Identifier.validate i = .ok ()

/-- The last fragment is a complete foreign key on the column, and comes after `before`. -/
def EndsComplete (t : Table) (before : List Fragment) (column : String) : Prop :=
  ∃ k, t.fragments = before ++ [.foreignKey k] ∧ k.column = column ∧ k.stage = .complete

/-- Errors advise what the last key expects. -/
theorem Advises.exists_eq_expected {m : Modifier} (h : t.Advises m) :
    ∃ before k, t.fragments = before ++ [.foreignKey k] ∧ m = k.stage.expected := by
  cases h with
  | @outOfOrder c called column h =>
    cases reply_eq_error_iff.1 h with
    | misplaced h =>
      cases h with
      | outOfOrder _ _ hl _ =>
        obtain ⟨before, ht⟩ := List.getLast?_eq_some_iff.1 hl
        exact ⟨before, _, ht, rfl⟩
  | @incomplete before last column ht hb h =>
    rcases create_eq_error_iff_firstIncomplete?.1 h with ⟨-, he⟩ | ⟨-, k, hk, he⟩
    · cases he
    · -- the incomplete key is the last fragment, as all fragments before it are complete
      have hnone : before.findSome? Fragment.incomplete? = none :=
        Fragment.firstIncomplete?_eq_none_iff.2 hb
      rw [ht, Fragment.firstIncomplete?, List.findSome?_append, hnone, Option.none_or,
        List.findSome?_singleton, Fragment.incomplete?_eq_some_iff] at hk
      obtain ⟨rfl, -⟩ := hk
      cases he
      exact ⟨before, k, ht, rfl⟩

/-- While the last key is incomplete, there is advice. -/
theorem advises_expected {before : List Fragment} (ht : t.fragments = before ++ [.foreignKey k])
    (hk : k.stage ≠ .complete) : t.Advises k.stage.expected := by
  have hl : t.fragments.getLast? = some (.foreignKey k) := by simp [ht]
  have hmisplaced : t.Misplaced .cascadeOnDelete
      (.foreignKeyOutOfOrder .cascadeOnDelete k.stage.expected k.column) :=
    .outOfOrder rfl rfl hl hk
  exact .outOfOrder (reply_eq_error_iff.2 (.misplaced hmisplaced))

/-- While the last key is incomplete, there is a call that heeds the advice. -/
theorem exists_heeds {before : List Fragment} (ht : t.fragments = before ++ [.foreignKey k])
    (hk : k.stage ≠ .complete) : ∃ c, t.Heeds c := by
  have hadvises := advises_expected ht hk
  have hvalid : Identifier.validate "id" = .ok () := rfl
  cases hs : k.stage with
  | awaitingReferences =>
    refine ⟨.references "id", ⟨_, hadvises, by rw [hs]; rfl⟩, fun _ i hi => ?_⟩
    cases hi
    exact hvalid
  | awaitingOn =>
    refine ⟨.on "id", ⟨_, hadvises, by rw [hs]; rfl⟩, fun _ i hi => ?_⟩
    cases hi
    exact hvalid
  | complete => exact absurd hs hk

/-- A call that heeds the advice succeeds, and is a step of the last key. -/
theorem Heeds.exists_step (h : t.Heeds c) : (∃ sql, (t.perform c).reply = .ok sql) ∧
    ∃ before k k', t.fragments = before ++ [.foreignKey k] ∧ k.Step c k' ∧
      (t.perform c).table.fragments = before ++ [.foreignKey k'] := by
  obtain ⟨m, hm, hc⟩ := h.advised
  obtain ⟨before, k, ht, rfl⟩ := hm.exists_eq_expected
  have hl : t.fragments.getLast? = some (.foreignKey k) := by simp [ht]
  have hfits : ∀ e, ¬t.Misplaced c e :=
    (forall_not_misplaced_iff hc (Modifier.stage?_eq_some_iff.2 rfl)).2 ⟨k, hl, rfl⟩
  have hchecked : ∀ i, c.identifier? = some i → t.check i = .ok () := fun i hi =>
    check_eq_ok_iff.2 fun hs => h.valid hs i hi
  obtain ⟨sql, hr⟩ := exists_reply_eq_ok_iff.2 ⟨hfits, hchecked⟩
  obtain ⟨k', hstep, hk'⟩ := ForeignKey.exists_step hc
  have hmodifier : c.isModifier = true := by simp [Call.isModifier, hc]
  refine ⟨⟨sql, hr⟩, before, k, k', ht, hstep, ?_⟩
  rw [table_of_reply_eq_ok hr, ht,
    Call.reshape_concat (Call.clears_of_isModifier hmodifier), if_pos hmodifier, hk',
    Call.added_of_isModifier hmodifier]

/-- Whoever heeds the advice twice has a complete key, if not once. -/
theorem Heeds.endsComplete (h : t.Heeds c) :
    ∃ before k, t.fragments = before ++ [.foreignKey k] ∧
      ((t.perform c).table.EndsComplete before k.column ∨
        (∃ c', (t.perform c).table.Heeds c') ∧ ∀ c', (t.perform c).table.Heeds c' →
          ((t.perform c).table.perform c').table.EndsComplete before k.column) := by
  obtain ⟨-, before, k, k', ht, hstep, ht'⟩ := h.exists_step
  refine ⟨before, k, ht, ?_⟩
  rcases hstep.stage_eq with hk' | ⟨-, hk'⟩
  · exact .inl ⟨k', ht', hstep.grows.column, hk'⟩
  · refine .inr ⟨exists_heeds ht' (by simp [hk']), fun c' h' => ?_⟩
    obtain ⟨-, before', l, l', hl, hstep', hl'⟩ := h'.exists_step
    obtain ⟨rfl, he⟩ := List.append_inj' (ht'.symm.trans hl) rfl
    obtain rfl : k' = l := by simpa using he
    refine ⟨l', hl', hstep'.grows.column.trans hstep.grows.column, ?_⟩
    -- the second step does not start at the first stage
    rcases hstep'.stage_eq with hl' | ⟨hfirst, -⟩
    · exact hl'
    · cases hk'.symm.trans hfirst

/-- **Foreign keys advance.**  In a table that is built by calls the parts of every foreign key are
set in order, and as long as a key is pending its stage does not go back and no part of it is
changed.  The table has a statement exactly if it has a name and complete keys only; otherwise
the missing name or the first incomplete key tells the error.  The modifier that an error tells
succeeds, and after at most two of them the last key is complete. -/
theorem foreignKeys_advance (h : t.IsBuilt) :
    (∀ k, .foreignKey k ∈ t.fragments →
      (k.table.isSome → k.references.isSome) ∧ (k.cascadeOnDelete = true → k.stage = .complete)) ∧
    (∀ cs, (∀ c ∈ cs, c.isRaw = false) → t.batches cs = [] →
      ∀ (i : ℕ) k, t.fragments[i]? = some (.foreignKey k) →
        ∃ k', (t.after cs).fragments[i]? = some (.foreignKey k') ∧ k.Grows k' ∧
          k.stage.rank ≤ k'.stage.rank) ∧
    ((∃ sql, (t.perform .create).reply = .ok (some sql)) ↔
      t.name.isSome ∧ ∀ f ∈ t.fragments, f.IsComplete) ∧
    (∀ e, (t.perform .create).reply = .error e ↔ (t.name = none ∧ e = .missingTableName) ∨
      (t.name.isSome ∧ ∃ k, Fragment.firstIncomplete? t.fragments = some k ∧
        e = .incompleteForeignKey k.column k.stage.expected)) ∧
    (∀ c, t.Heeds c → (∃ sql, (t.perform c).reply = .ok sql) ∧
      ∃ before k, t.fragments = before ++ [.foreignKey k] ∧
        ((t.perform c).table.EndsComplete before k.column ∨
          (∃ c', (t.perform c).table.Heeds c') ∧ ∀ c', (t.perform c).table.Heeds c' →
            ((t.perform c).table.perform c').table.EndsComplete before k.column)) := by
  refine ⟨fun k hk => ?_, fun cs hcs hb i k hk => ?_, exists_create_eq_ok_iff, fun e => ?_,
    fun c hc => ⟨hc.exists_step.1, hc.endsComplete⟩⟩
  · exact ⟨(h.isOrderly hk).table, (h.isOrderly hk).cascadeOnDelete⟩
  · obtain ⟨k', hk', hgrows⟩ := grows_after hcs hb hk
    exact ⟨k', hk', hgrows, hgrows.rank_stage_le⟩
  · exact create_eq_error_iff_firstIncomplete?

/-- The calls of a table whose foreign key lacks its referenced table. -/
def unfinishedCalls : List Call :=
  [.setName "posts", .column "title" .text, .foreign "user_id", .references "id"]

/-- The foreign key that the calls leave. -/
def unfinishedKey : ForeignKey where
  column := "user_id"
  references := some "id"

/-- Its table has no statement, and the modifier that the error tells completes it. -/
theorem unfinishedKey_advances : ((checked .generic).after unfinishedCalls).IsBuilt ∧
    (((checked .generic).after unfinishedCalls).perform .create).reply =
      .error (.incompleteForeignKey "user_id" .on) ∧
    ∃ sql, (((checked .generic).after unfinishedCalls).perform (.on "users")).reply = .ok sql := by
  have hbuilt : ((checked .generic).after unfinishedCalls).IsBuilt :=
    ⟨.checked .generic, unfinishedCalls, by decide, rfl⟩
  obtain ⟨-, -, -, herror, hheeds⟩ := foreignKeys_advance hbuilt
  have hcreate := (herror _).2 (.inr ⟨rfl, unfinishedKey, rfl, rfl⟩)
  have hlast : ((checked .generic).after unfinishedCalls).fragments =
      [.column { name := "title", kind := .text }] ++ [.foreignKey unfinishedKey] := rfl
  have hadvised : ((checked .generic).after unfinishedCalls).Advises .on :=
    .incomplete hlast (by decide) hcreate
  refine ⟨hbuilt, hcreate, (hheeds (.on "users") ⟨⟨.on, hadvised, rfl⟩, fun _ i hi => ?_⟩).1⟩
  cases hi
  rfl

end Table

end Schemata
