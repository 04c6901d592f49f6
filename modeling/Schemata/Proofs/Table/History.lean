import Schemata.Proofs.Table.Log

/-!
# Histories of tables

After any sequence of calls a table is what its log says: only the accepted calls count, the name
is that of the last naming, and the fragments are the pending ones of the log.

* `Table.table_of_reply_eq_ok` — what an accepted call leaves, for all calls at once;
* `Table.describes_after` — a log describes the table at every point of a run;
* `Table.run_follows_log` — the whole run: mode, name, fragments, statements, and where every
  added fragment went.
-/

namespace Schemata

namespace Table

/-! ### Accepted calls -/

variable {t : Table} {c : Call} {sql : Option String}

theorem modifyColumn_of_ok {m : Modifier} {change : Column → Column}
    (h : (t.modifyColumn m change).reply = .ok sql) :
    ∃ col, t.fragments.getLast? = some (.column col) ∧
      (t.modifyColumn m change).table = t.withLast (.column (change col)) := by
  unfold modifyColumn at h ⊢
  split at h
  next => cases h
  next => cases h
  next col hl => exact ⟨col, hl, rfl⟩

theorem modifyForeignKey_of_ok {m : Modifier} {s : ForeignKey.Stage}
    {argument : Except TableError Unit} {change : ForeignKey → ForeignKey}
    (h : (t.modifyForeignKey m s argument change).reply = .ok sql) :
    ∃ k, t.fragments.getLast? = some (.foreignKey k) ∧ k.stage = s ∧
      (t.modifyForeignKey m s argument change).table = t.withLast (.foreignKey (change k)) := by
  unfold modifyForeignKey at h ⊢
  split at h
  next => cases h
  next => cases h
  next k hl =>
    split at h
    next hk =>
      cases argument with
      | error e => cases h
      | ok => exact ⟨k, hl, hk, by simp [hk, accept]⟩
    next => cases h

theorem replaceLast_of_ok {f : Fragment} (h : (t.replaceLast f).reply = .ok sql) :
    ∃ g, t.fragments.getLast? = some g ∧ (t.replaceLast f).table = t.withLast f := by
  unfold replaceLast at h ⊢
  split at h
  next => cases h
  next g hl => exact ⟨g, hl, rfl⟩

theorem appendChecked_of_ok {f : Fragment} (h : (t.appendChecked f).reply = .ok sql) :
    (t.appendChecked f).table = t.push f := by
  unfold appendChecked at h ⊢
  split at h
  next => cases h
  next => rfl

theorem setName_of_ok {name : String} (h : (t.setName name).reply = .ok sql) :
    (t.setName name).table = { t with name := some name } := by
  unfold setName at h ⊢
  split at h
  next => cases h
  next hn =>
    split at h
    next => cases h
    next => simp [hn, accept]

theorem create_of_ok (h : t.create.reply = .ok sql) :
    t.create.table = { t with fragments := [] } := by
  obtain ⟨name, texts, hn, hf, -⟩ := create_reply_eq_ok_iff.1 h
  simp [create, hn, hf, answer]

theorem drop_of_ok (h : t.drop.reply = .ok sql) : t.drop.table = t := by
  cases hn : t.name with
  | none => simp [drop, hn, refuse] at h
  | some name => simp [drop, hn, answer]

theorem withLast_eq_reshape {f g : Fragment} (hm : c.isModifier = true)
    (hl : t.fragments.getLast? = some f) (hg : c.change f = g) (hn : ∀ n, c.rename n = n) :
    t.withLast g = { t with name := c.rename t.name, fragments := c.reshape t.fragments } := by
  simp [withLast, Call.reshape, Call.clears_of_isModifier hm, hm, hl, hg, hn]

/-- What an accepted call leaves. -/
theorem table_of_reply_eq_ok (h : (t.perform c).reply = .ok sql) :
    (t.perform c).table =
      { t with name := c.rename t.name, fragments := c.reshape t.fragments } := by
  cases c with
  | setName name =>
    rw [perform, setName_of_ok h]
    simp [Call.rename, Call.reshape, Call.clears, Call.isModifier, Call.modifier?, Call.added]
  | reset => rfl
  | column _ _ | foreign _ =>
    rw [perform]
    exact appendChecked_of_ok h
  | timestamps =>
    simp [perform, timestamps, accept, push, Call.rename, Call.reshape, Call.clears,
      Call.isModifier, Call.modifier?, Call.added]
  | nullable | default _ | unique =>
    obtain ⟨col, hl, ht⟩ := modifyColumn_of_ok h
    exact ht.trans (withLast_eq_reshape rfl hl rfl fun _ => rfl)
  | references _ | on _ | cascadeOnDelete =>
    obtain ⟨k, hl, -, ht⟩ := modifyForeignKey_of_ok h
    exact ht.trans (withLast_eq_reshape rfl hl rfl fun _ => rfl)
  | append f => rfl
  | replaceLast f =>
    obtain ⟨g, hl, ht⟩ := replaceLast_of_ok h
    exact ht.trans (withLast_eq_reshape rfl hl (by cases g <;> rfl) fun _ => rfl)
  | create => exact create_of_ok h
  | drop =>
    rw [perform, drop_of_ok h]
    simp [Call.rename, Call.reshape, Call.clears, Call.isModifier, Call.modifier?, Call.added]

/-! ### Runs -/

/-- The table after a sequence of calls, refused ones included. -/
def after (t : Table) (cs : List Call) : Table :=
  cs.foldl (fun t c => (t.perform c).table) t

/-- The calls of a sequence that succeed. -/
def accepted (t : Table) (cs : List Call) : List Call :=
  ((cs.zip (t.performAll cs)).filter fun p => p.2.reply.isOk).map Prod.fst

/-- Fragments that were taken away together. -/
inductive Batch where
  /-- They went into a statement. -/
  | exported (fragments : List Fragment) (sql : String)
  /-- They were forgotten with the name of the table. -/
  | discarded (fragments : List Fragment)

/-- The fragments of the batch. -/
def Batch.fragments : Batch → List Fragment
  | exported fs _ => fs
  | discarded fs => fs

/-- The batch that the call takes from the table, if it takes one. -/
def taken? (t : Table) (c : Call) : Option Batch :=
  match c, (t.perform c).reply with
  | .create, .ok (some sql) => some (.exported t.fragments sql)
  | .reset, .ok _ => some (.discarded t.fragments)
  | _, _ => none

/-- The batches that a sequence of calls takes, in order. -/
def batches (t : Table) : List Call → List Batch
  | [] => []
  | c :: cs => (t.taken? c).toList ++ batches (t.perform c).table cs

theorem after_append_singleton (t : Table) (cs : List Call) (c : Call) :
    t.after (cs ++ [c]) = ((t.after cs).perform c).table := by
  simp [after]

theorem length_performAll (t : Table) (cs : List Call) :
    (t.performAll cs).length = cs.length := by
  induction cs generalizing t with
  | nil => rfl
  | cons c cs ih => simp [performAll, ih]

theorem performAll_append_singleton (t : Table) (cs : List Call) (c : Call) :
    t.performAll (cs ++ [c]) = t.performAll cs ++ [(t.after cs).perform c] := by
  induction cs generalizing t with
  | nil => rfl
  | cons c' cs ih =>
    simp only [List.cons_append, performAll, ih]
    rfl

theorem accepted_append_singleton (t : Table) (cs : List Call) (c : Call) :
    t.accepted (cs ++ [c]) =
      t.accepted cs ++ if ((t.after cs).perform c).reply.isOk then [c] else [] := by
  unfold accepted
  rw [performAll_append_singleton, List.zip_append (length_performAll t cs).symm,
    List.filter_append, List.map_append]
  cases h : ((t.after cs).perform c).reply.isOk <;> simp [h]

theorem batches_append_singleton (t : Table) (cs : List Call) (c : Call) :
    t.batches (cs ++ [c]) = t.batches cs ++ ((t.after cs).taken? c).toList := by
  induction cs generalizing t with
  | nil => simp [batches, after]
  | cons c' cs ih =>
    simp only [List.cons_append, batches, ih, List.append_assoc]
    rfl

theorem taken?_of_clears_eq_false (hc : c.clears = false) : t.taken? c = none := by
  cases c <;> first | rfl | cases hc

theorem taken?_of_error {e : TableError} (h : (t.perform c).reply = .error e) :
    t.taken? c = none := by
  unfold taken?
  split <;> simp_all

theorem taken?_of_clears (hc : c.clears = true) (h : (t.perform c).reply = .ok sql) :
    ∃ b, t.taken? c = some b ∧ b.fragments = t.fragments := by
  cases c with
  | create =>
    obtain ⟨name, texts, -, -, rfl⟩ := create_reply_eq_ok_iff.1 h
    exact ⟨.exported t.fragments (createSql name texts), by simp [taken?, h], rfl⟩
  | reset => exact ⟨.discarded t.fragments, rfl, rfl⟩
  | _ => cases hc

theorem createSql_of_taken? {fs : List Fragment} {text : String}
    (h : t.taken? c = some (.exported fs text)) :
    ∃ name texts, Fragment.renderAll t.dialect fs = .ok texts ∧ text = createSql name texts := by
  unfold taken? at h
  split at h
  next hr =>
    obtain ⟨name, texts, -, hf, hsql⟩ := create_reply_eq_ok_iff.1 hr
    simp only [Option.some.injEq, Batch.exported.injEq] at h
    obtain ⟨rfl, rfl⟩ := h
    exact ⟨name, texts, hf, Option.some.inj hsql⟩
  next => cases h
  next => cases h

end Table

/-! ### Tables and their logs -/

/-- The log says what the table holds. -/
structure Log.Describes (log : List Call) (t : Table) : Prop where
  /-- The name is the one that the log settled. -/
  name : t.name = Log.name? log
  /-- The fragments are those that the log left. -/
  fragments : t.fragments = Log.pending log

namespace Table

variable {t : Table} {c : Call} {log : List Call} {sql : Option String}

theorem describes_step (h : Log.Describes log t) (hc : (t.perform c).reply = .ok sql) :
    Log.Describes (log ++ [c]) (t.perform c).table := by
  rw [table_of_reply_eq_ok hc]
  refine ⟨?_, ?_⟩
  · rw [Log.name?_append_singleton, ← h.name]
  · rw [Log.pending_append_singleton, ← h.fragments]

/-- How a table is made. -/
inductive Origin where
  /-- Every identifier is accepted. -/
  | permissive (d : Dialect)
  /-- Valid identifiers only are accepted. -/
  | checked (d : Dialect)
  /-- Every identifier is accepted, and a driver names the dialect. -/
  | ofDriver (driver : String)

/-- The table that is made. -/
def Origin.table : Origin → Table
  | permissive d => .permissive d
  | checked d => .checked d
  | ofDriver driver => .ofDriver driver

theorem describes_origin (o : Origin) : Log.Describes [] o.table := by
  cases o <;> exact ⟨rfl, rfl⟩

/-- The log of a run describes the table at its end. -/
theorem describes_after (h : Log.Describes [] t) (cs : List Call) :
    Log.Describes (t.accepted cs) (t.after cs) := by
  -- from the front, as a log grows at its end
  induction cs using List.reverseRecOn with
  | nil => exact h
  | append_singleton cs c ih =>
    rw [accepted_append_singleton, after_append_singleton]
    -- a refused call changes neither the log nor the table
    cases hc : ((t.after cs).perform c).reply with
    | error e => simpa [Except.isOk, Except.toBool, keeps_perform _ c e hc] using ih
    | ok sql => simpa [Except.isOk, Except.toBool] using describes_step ih hc

theorem mode_after (t : Table) (cs : List Call) :
    (t.after cs).dialect = t.dialect ∧ (t.after cs).strict = t.strict := by
  induction cs using List.reverseRecOn with
  | nil => exact ⟨rfl, rfl⟩
  | append_singleton cs c ih =>
    rw [after_append_singleton]
    cases hc : ((t.after cs).perform c).reply with
    | error e => rwa [keeps_perform _ c e hc]
    | ok sql => rwa [table_of_reply_eq_ok hc]

/-- The statement of an exported batch lists the fragments of the batch. -/
theorem createSql_of_exported_mem_batches {fs : List Fragment} {text : String} {cs : List Call}
    (h : .exported fs text ∈ t.batches cs) :
    ∃ name texts, Fragment.renderAll t.dialect fs = .ok texts ∧ text = createSql name texts := by
  induction cs using List.reverseRecOn with
  | nil => cases h
  | append_singleton cs c ih =>
    rw [batches_append_singleton] at h
    rcases List.mem_append.1 h with h | h
    · exact ih h
    · rw [← (mode_after t cs).1]
      exact createSql_of_taken? (Option.mem_toList.1 h)

/-- The batches of a run are the settled fragments of its log. -/
theorem flatMap_fragments_batches (h : Log.Describes [] t) (cs : List Call) :
    (t.batches cs).flatMap Batch.fragments = Log.settled (t.accepted cs) := by
  induction cs using List.reverseRecOn with
  | nil => rfl
  | append_singleton cs c ih =>
    rw [batches_append_singleton, accepted_append_singleton, List.flatMap_append, ih]
    cases hc : ((t.after cs).perform c).reply with
    | error e => simp [taken?_of_error hc, Except.isOk, Except.toBool]
    | ok sql =>
      simp only [Except.isOk, Except.toBool, ↓reduceIte, Log.settled_append_singleton]
      cases hcl : c.clears with
      | false => simp [taken?_of_clears_eq_false hcl]
      | true =>
        obtain ⟨b, hb, hfs⟩ := taken?_of_clears hcl hc
        simp [hb, hfs, (describes_after h cs).fragments]

/-- **Tables follow their logs.**  At every point of a run the mode is that of the start, the name
is that of the last accepted naming, the fragments are those added since they were last taken,
each changed by the accepted modifiers that were called while it was the last, and a statement, if
there is one, lists exactly these.  So every added fragment is in exactly one place: in the batch of
one statement, in that of a reset, or still pending. -/
theorem run_follows_log (o : Origin) (cs : List Call) :
    ((o.table.after cs).dialect = o.table.dialect ∧
      (o.table.after cs).strict = o.table.strict) ∧
    (o.table.after cs).name = Log.name? (o.table.accepted cs) ∧
    ((o.table.after cs).fragments =
        (Log.entries (Log.recent (o.table.accepted cs))).map Log.Entry.fragment ∧
      (Log.entries (Log.recent (o.table.accepted cs))).map Log.Entry.initial =
        (Log.recent (o.table.accepted cs)).flatMap Call.added) ∧
    (∀ sql, ((o.table.after cs).perform .create).reply = .ok sql ↔
      ∃ name texts, (o.table.after cs).name = some name ∧
        List.Forall₂ (fun f text => f.render o.table.dialect = .ok text)
          (o.table.after cs).fragments texts ∧
        sql = some ("CREATE TABLE IF NOT EXISTS " ++ name ++ " (" ++
          String.intercalate ", " texts ++ ");")) ∧
    ((Log.entries (o.table.accepted cs)).map Log.Entry.initial =
        (o.table.accepted cs).flatMap Call.added ∧
      (Log.entries (o.table.accepted cs)).map Log.Entry.fragment =
        (o.table.batches cs).flatMap Batch.fragments ++ (o.table.after cs).fragments ∧
      ∀ fs sql, .exported fs sql ∈ o.table.batches cs →
        ∃ name texts, List.Forall₂ (fun f text => f.render o.table.dialect = .ok text) fs texts ∧
          sql = "CREATE TABLE IF NOT EXISTS " ++ name ++ " (" ++
            String.intercalate ", " texts ++ ");") := by
  have hlog := describes_after (describes_origin o) cs
  have hmode := mode_after o.table cs
  refine ⟨hmode, hlog.name, ⟨hlog.fragments, Log.map_initial_entries _⟩, fun sql => ?_,
    Log.map_initial_entries _, ?_, fun fs sql h => ?_⟩
  · rw [← hmode.1]
    simp only [← Fragment.renderAll_eq_ok_iff]
    exact create_reply_eq_ok_iff
  · rw [flatMap_fragments_batches (describes_origin o) cs, hlog.fragments]
    exact Log.map_fragment_entries _
  · simp only [← Fragment.renderAll_eq_ok_iff]
    exact createSql_of_exported_mem_batches h

end Table

end Schemata
