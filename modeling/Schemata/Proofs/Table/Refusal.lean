import Schemata.Proofs.Fragment.Completeness
import Schemata.Table.Call

/-!
# Refused calls

A call is refused for one of two reasons.  Either it does not fit what the table holds, in any
mode (`Table.Misplaced`), or it fits, the table is strict, and its identifier is not valid.  So the
identifier is looked at last.

* `Table.reply_eq_error_iff` — the errors of calls are exactly these refusals;
* `Table.exists_reply_eq_ok_iff` — so calls that fit and name valid identifiers succeed;
* `Table.keeps_perform` — a refused call changes nothing;
* `Table.refused_call_changes_nothing` — both together.
-/

namespace Schemata

/-! ### What calls ask for -/

namespace Call

/-- The modifier that the call is, if it changes the fragment added last. -/
def modifier? : Call → Option Modifier
  | .nullable => some .nullable
  | .default _ => some .default
  | .unique => some .unique
  | .references _ => some .references
  | .on _ => some .on
  | .cascadeOnDelete => some .cascadeOnDelete
  | .replaceLast _ => some .setLast
  | _ => none

/-- The identifier that strict mode checks. -/
def identifier? : Call → Option String
  | .setName i | .column i _ | .foreign i | .references i | .on i => some i
  | _ => none

/-- Whether the call gives a statement, which takes a name. -/
def givesStatement : Call → Bool
  | .create | .drop => true
  | _ => false

end Call

namespace Modifier

/-- Whether the modifier changes columns only. -/
def forColumns : Modifier → Bool
  | .nullable | .default | .unique => true
  | _ => false

/-- The stage of the foreign keys that the modifier changes, if it changes foreign keys only. -/
def stage? : Modifier → Option ForeignKey.Stage
  | .references => some .awaitingReferences
  | .on => some .awaitingOn
  | .cascadeOnDelete => some .complete
  | _ => none

end Modifier

namespace Table

/-- The call does not fit what the table holds, whatever the mode. -/
inductive Misplaced (t : Table) : Call → TableError → Prop
  /-- The name is empty. -/
  | emptyName : Misplaced t (.setName "") .emptyTableName
  /-- There is no fragment to change. -/
  | noFragment {c : Call} {m : Modifier} (hm : c.modifier? = some m) (ht : t.fragments = []) :
    Misplaced t c (.emptySequence m)
  /-- A modifier of columns meets a foreign key. -/
  | notAColumn {c : Call} {m : Modifier} {k : ForeignKey} (hm : c.modifier? = some m)
    (hc : m.forColumns = true) (ht : t.fragments.getLast? = some (.foreignKey k)) :
    Misplaced t c (.notAColumn m k.column)
  /-- A modifier of foreign keys meets a column. -/
  | notAForeignKey {c : Call} {m : Modifier} {s : ForeignKey.Stage} {col : Column}
    (hm : c.modifier? = some m) (hs : m.stage? = some s)
    (ht : t.fragments.getLast? = some (.column col)) :
    Misplaced t c (.misplacedForeignKeyModifier m col.name)
  /-- A modifier of foreign keys meets one at another stage. -/
  | outOfOrder {c : Call} {m : Modifier} {s : ForeignKey.Stage} {k : ForeignKey}
    (hm : c.modifier? = some m) (hs : m.stage? = some s)
    (ht : t.fragments.getLast? = some (.foreignKey k)) (hk : k.stage ≠ s) :
    Misplaced t c (.foreignKeyOutOfOrder m k.stage.expected k.column)
  /-- The table has no name. -/
  | noName {c : Call} (hc : c.givesStatement = true) (ht : t.name = none) :
    Misplaced t c .missingTableName
  /-- A foreign key is not complete, and the fragments before it are. -/
  | incomplete {name : String} {before after : List Fragment} {k : ForeignKey}
    (hn : t.name = some name) (ht : t.fragments = before ++ .foreignKey k :: after)
    (hb : ∀ f ∈ before, f.IsComplete) (hk : k.stage ≠ .complete) :
    Misplaced t .create (.incompleteForeignKey k.column k.stage.expected)

/-- The table refuses the call with the error. -/
inductive Refuses (t : Table) (c : Call) : TableError → Prop
  /-- The call does not fit what the table holds. -/
  | misplaced {e : TableError} (h : t.Misplaced c e) : Refuses t c e
  /-- The call fits, but strict mode does not accept its identifier. -/
  | invalid {identifier : String} {fault : Identifier.Fault} (hs : t.strict = true)
    (hi : c.identifier? = some identifier) (hf : Identifier.fault? identifier = some fault)
    (h : ∀ e, ¬t.Misplaced c e) : Refuses t c (.invalidIdentifier identifier fault)

variable {t : Table} {c : Call} {m : Modifier} {s : ForeignKey.Stage} {e : TableError}

/-! ### When a call is misplaced -/

/-- Only the naming of a table, modifiers and statements can be misplaced. -/
theorem not_misplaced (hm : c.modifier? = none) (hc : c.givesStatement = false)
    (hn : c ≠ .setName "") : ¬t.Misplaced c e := by
  intro h
  cases h with
  | emptyName => exact hn rfl
  | noFragment hm' _ | notAColumn hm' _ _ | notAForeignKey hm' _ _ | outOfOrder hm' _ _ _ =>
    cases hm.symm.trans hm'
  | noName hc' _ => cases hc.symm.trans hc'
  | incomplete => cases hc

theorem misplaced_setName_iff {name : String} :
    t.Misplaced (.setName name) e ↔ name = "" ∧ e = .emptyTableName := by
  constructor
  · intro h
    cases h with
    | emptyName => exact ⟨rfl, rfl⟩
    | noFragment hm _ | notAColumn hm _ _ | notAForeignKey hm _ _ | outOfOrder hm _ _ _ => cases hm
    | noName hc _ => cases hc
  · rintro ⟨rfl, rfl⟩
    exact .emptyName

theorem misplaced_column_iff (hm : c.modifier? = some m) (hc : m.forColumns = true) :
    t.Misplaced c e ↔ (t.fragments = [] ∧ e = .emptySequence m) ∨
      ∃ k, t.fragments.getLast? = some (.foreignKey k) ∧ e = .notAColumn m k.column := by
  constructor
  · intro h
    cases h with
    | emptyName | incomplete => cases hm
    | noFragment hm' ht =>
      cases hm.symm.trans hm'
      exact .inl ⟨ht, rfl⟩
    | notAColumn hm' _ ht =>
      cases hm.symm.trans hm'
      exact .inr ⟨_, ht, rfl⟩
    | notAForeignKey hm' hs _ | outOfOrder hm' hs _ _ =>
      cases hm.symm.trans hm'
      cases m <;> simp [Modifier.forColumns, Modifier.stage?] at hc hs
    | noName hg _ => cases c <;> simp [Call.modifier?, Call.givesStatement] at hm hg
  · rintro (⟨ht, rfl⟩ | ⟨k, ht, rfl⟩)
    · exact .noFragment hm ht
    · exact .notAColumn hm hc ht

theorem misplaced_foreignKey_iff (hm : c.modifier? = some m) (hs : m.stage? = some s) :
    t.Misplaced c e ↔ (t.fragments = [] ∧ e = .emptySequence m) ∨
      (∃ col, t.fragments.getLast? = some (.column col) ∧
        e = .misplacedForeignKeyModifier m col.name) ∨
      ∃ k, t.fragments.getLast? = some (.foreignKey k) ∧ k.stage ≠ s ∧
        e = .foreignKeyOutOfOrder m k.stage.expected k.column := by
  constructor
  · intro h
    cases h with
    | emptyName | incomplete => cases hm
    | noFragment hm' ht =>
      cases hm.symm.trans hm'
      exact .inl ⟨ht, rfl⟩
    | notAColumn hm' hc _ =>
      cases hm.symm.trans hm'
      cases m <;> simp [Modifier.forColumns, Modifier.stage?] at hc hs
    | notAForeignKey hm' _ ht =>
      cases hm.symm.trans hm'
      exact .inr (.inl ⟨_, ht, rfl⟩)
    | outOfOrder hm' hs' ht hk =>
      cases hm.symm.trans hm'
      cases hs.symm.trans hs'
      exact .inr (.inr ⟨_, ht, hk, rfl⟩)
    | noName hg _ => cases c <;> simp [Call.modifier?, Call.givesStatement] at hm hg
  · rintro (⟨ht, rfl⟩ | ⟨col, ht, rfl⟩ | ⟨k, ht, hk, rfl⟩)
    · exact .noFragment hm ht
    · exact .notAForeignKey hm hs ht
    · exact .outOfOrder hm hs ht hk

/-- A modifier of foreign keys fits exactly after a foreign key at its stage. -/
theorem forall_not_misplaced_iff (hm : c.modifier? = some m) (hs : m.stage? = some s) :
    (∀ e, ¬t.Misplaced c e) ↔
      ∃ k, t.fragments.getLast? = some (.foreignKey k) ∧ k.stage = s := by
  constructor
  · intro h
    cases hl : t.fragments.getLast? with
    | none => exact absurd (.noFragment hm (List.getLast?_eq_none_iff.1 hl)) (h _)
    | some f =>
      cases f with
      | column col => exact absurd (.notAForeignKey hm hs hl) (h _)
      | foreignKey k => exact ⟨k, rfl, by_contra fun hk => h _ (.outOfOrder hm hs hl hk)⟩
  · rintro ⟨k, hl, hk⟩ e h
    rw [misplaced_foreignKey_iff hm hs, ← List.getLast?_eq_none_iff, hl] at h
    rcases h with ⟨h, -⟩ | ⟨col, h, -⟩ | ⟨k', h, hk', -⟩
    · cases h
    · cases h
    · cases h
      exact hk' hk

theorem misplaced_replaceLast_iff {f : Fragment} :
    t.Misplaced (.replaceLast f) e ↔ t.fragments = [] ∧ e = .emptySequence .setLast := by
  constructor
  · intro h
    cases h with
    | noFragment hm ht =>
      cases hm
      exact ⟨ht, rfl⟩
    | notAColumn hm hc _ =>
      cases hm
      cases hc
    | notAForeignKey hm hs _ | outOfOrder hm hs _ _ =>
      cases hm
      cases hs
    | noName hc _ => cases hc
  · rintro ⟨ht, rfl⟩
    exact .noFragment rfl ht

theorem misplaced_create_iff :
    t.Misplaced .create e ↔ (t.name = none ∧ e = .missingTableName) ∨
      ∃ name, t.name = some name ∧ Fragment.renderAll t.dialect t.fragments = .error e := by
  simp only [Fragment.renderAll_eq_error_iff]
  constructor
  · intro h
    cases h with
    | noFragment hm _ | notAColumn hm _ _ | notAForeignKey hm _ _ | outOfOrder hm _ _ _ => cases hm
    | noName _ ht => exact .inl ⟨ht, rfl⟩
    | incomplete hn ht hb hk => exact .inr ⟨_, hn, _, _, _, ht, hb, hk, rfl⟩
  · rintro (⟨ht, rfl⟩ | ⟨name, hn, before, k, after, ht, hb, hk, rfl⟩)
    · exact .noName rfl ht
    · exact .incomplete hn ht hb hk

theorem misplaced_drop_iff : t.Misplaced .drop e ↔ t.name = none ∧ e = .missingTableName := by
  constructor
  · intro h
    cases h with
    | noFragment hm _ | notAColumn hm _ _ | notAForeignKey hm _ _ | outOfOrder hm _ _ _ => cases hm
    | noName _ ht => exact ⟨ht, rfl⟩
  · rintro ⟨ht, rfl⟩
    exact .noName rfl ht

/-! ### When a call is refused -/

theorem check_eq_error_iff {i : String} :
    t.check i = .error e ↔
      t.strict = true ∧ ∃ f, Identifier.fault? i = some f ∧ e = .invalidIdentifier i f := by
  cases hs : t.strict
  · simp [check, hs]
  · cases hf : Identifier.fault? i <;> simp [check, hs, Identifier.validate, hf, eq_comm]

/-- A strict table accepts valid identifiers, any other table accepts all. -/
theorem check_eq_ok_iff {i : String} :
    t.check i = .ok () ↔ (t.strict = true → Identifier.validate i = .ok ()) := by
  cases hs : t.strict <;> simp [check, hs]

theorem refuses_iff_misplaced (hi : c.identifier? = none) :
    t.Refuses c e ↔ t.Misplaced c e := by
  refine ⟨fun h => ?_, .misplaced⟩
  cases h with
  | misplaced h => exact h
  | invalid _ hi' _ _ => cases hi.symm.trans hi'

theorem refuses_iff_check {i : String} (hi : c.identifier? = some i) :
    t.Refuses c e ↔ t.Misplaced c e ∨ ((∀ e, ¬t.Misplaced c e) ∧ t.check i = .error e) := by
  constructor
  · intro h
    cases h with
    | misplaced h => exact .inl h
    | invalid hs hi' hf h =>
      cases hi.symm.trans hi'
      exact .inr ⟨h, check_eq_error_iff.2 ⟨hs, _, hf, rfl⟩⟩
  · rintro (h | ⟨h, hc⟩)
    · exact .misplaced h
    · obtain ⟨hs, f, hf, rfl⟩ := check_eq_error_iff.1 hc
      exact .invalid hs hi hf h

theorem refuses_iff_check_of_fits {i : String} (hi : c.identifier? = some i)
    (h : ∀ e, ¬t.Misplaced c e) : t.Refuses c e ↔ t.check i = .error e := by
  rw [refuses_iff_check hi]
  simp [h]

/-! ### Errors of calls -/

theorem modifyColumn_eq_error_iff {change : Column → Column} :
    (t.modifyColumn m change).reply = .error e ↔ (t.fragments = [] ∧ e = .emptySequence m) ∨
      ∃ k, t.fragments.getLast? = some (.foreignKey k) ∧ e = .notAColumn m k.column := by
  rw [← List.getLast?_eq_none_iff]
  unfold modifyColumn
  split <;> simp_all [refuse, accept, eq_comm]

theorem modifyForeignKey_eq_error_iff {argument : Except TableError Unit}
    {change : ForeignKey → ForeignKey} :
    (t.modifyForeignKey m s argument change).reply = .error e ↔
      ((t.fragments = [] ∧ e = .emptySequence m) ∨
        (∃ col, t.fragments.getLast? = some (.column col) ∧
          e = .misplacedForeignKeyModifier m col.name) ∨
        ∃ k, t.fragments.getLast? = some (.foreignKey k) ∧ k.stage ≠ s ∧
          e = .foreignKeyOutOfOrder m k.stage.expected k.column) ∨
      ((∃ k, t.fragments.getLast? = some (.foreignKey k) ∧ k.stage = s) ∧
        argument = .error e) := by
  rw [← List.getLast?_eq_none_iff]
  unfold modifyForeignKey
  split
  next h => simp [h, refuse, eq_comm]
  next col h => simp [h, refuse, eq_comm]
  next k h =>
    by_cases hk : k.stage = s
    · cases argument <;> simp [h, hk, refuse, accept]
    · simp [h, hk, Ne.symm hk, refuse, eq_comm]

theorem replaceLast_eq_error_iff {f : Fragment} :
    (t.replaceLast f).reply = .error e ↔ t.fragments = [] ∧ e = .emptySequence .setLast := by
  rw [← List.getLast?_eq_none_iff]
  unfold replaceLast
  split <;> simp_all [refuse, accept, eq_comm]

theorem appendChecked_eq_error_iff {f : Fragment} :
    (t.appendChecked f).reply = .error e ↔ t.check f.name = .error e := by
  unfold appendChecked
  split <;> simp_all [refuse, append, accept]

theorem setName_eq_error_iff {name : String} :
    (t.setName name).reply = .error e ↔
      (name = "" ∧ e = .emptyTableName) ∨ (name ≠ "" ∧ t.check name = .error e) := by
  by_cases hn : name = ""
  · simp [setName, hn, refuse, eq_comm]
  · cases hc : t.check name <;> simp [setName, hn, hc, refuse, accept]

theorem create_eq_error_iff :
    t.create.reply = .error e ↔ (t.name = none ∧ e = .missingTableName) ∨
      ∃ name, t.name = some name ∧ Fragment.renderAll t.dialect t.fragments = .error e := by
  cases hn : t.name with
  | none => simp [create, hn, refuse, eq_comm]
  | some name =>
    cases hf : Fragment.renderAll t.dialect t.fragments <;>
      simp [create, hn, hf, refuse, answer]

theorem create_reply_eq_ok_iff {sql : Option String} :
    t.create.reply = .ok sql ↔ ∃ name texts, t.name = some name ∧
      Fragment.renderAll t.dialect t.fragments = .ok texts ∧ sql = some (createSql name texts) := by
  cases hn : t.name with
  | none => simp [create, hn, refuse]
  | some name =>
    cases hf : Fragment.renderAll t.dialect t.fragments <;>
      simp [create, hn, hf, refuse, answer, eq_comm]

theorem exists_create_eq_ok_iff : (∃ sql, t.create.reply = .ok (some sql)) ↔
    t.name.isSome ∧ ∀ f ∈ t.fragments, f.IsComplete := by
  constructor
  · rintro ⟨sql, h⟩
    obtain ⟨name, texts, hn, hf, -⟩ := create_reply_eq_ok_iff.1 h
    refine ⟨by simp [hn], Fragment.firstIncomplete?_eq_none_iff.1 ?_⟩
    by_contra hk
    obtain ⟨k, hk⟩ := Option.ne_none_iff_exists'.1 hk
    cases hf.symm.trans (Fragment.renderAll_eq_error_iff_firstIncomplete?.2 ⟨k, hk, rfl⟩)
  · rintro ⟨hn, hfs⟩
    obtain ⟨name, hn⟩ := Option.isSome_iff_exists.1 hn
    obtain ⟨texts, hf⟩ := Fragment.exists_renderAll_eq_ok t.dialect hfs
    exact ⟨createSql name texts, create_reply_eq_ok_iff.2 ⟨name, texts, hn, hf, rfl⟩⟩

/-- Without a name there is no statement; otherwise the first incomplete key stands in its way. -/
theorem create_eq_error_iff_firstIncomplete? : t.create.reply = .error e ↔
    (t.name = none ∧ e = .missingTableName) ∨
      (t.name.isSome ∧ ∃ k, Fragment.firstIncomplete? t.fragments = some k ∧
        e = .incompleteForeignKey k.column k.stage.expected) := by
  simp only [create_eq_error_iff, Fragment.renderAll_eq_error_iff_firstIncomplete?,
    Option.isSome_iff_exists, exists_and_right]

theorem drop_eq_error_iff :
    t.drop.reply = .error e ↔ t.name = none ∧ e = .missingTableName := by
  cases hn : t.name <;> simp [drop, hn, refuse, answer, eq_comm]

/-- The errors of calls are the refusals of the table. -/
theorem reply_eq_error_iff : (t.perform c).reply = .error e ↔ t.Refuses c e := by
  cases c with
  | setName name =>
    have hfits : (∀ e, ¬t.Misplaced (.setName name) e) ↔ name ≠ "" := by
      simp [misplaced_setName_iff]
    rw [refuses_iff_check rfl, hfits, misplaced_setName_iff]
    exact setName_eq_error_iff
  | column _ _ | foreign _ =>
    rw [refuses_iff_check_of_fits rfl fun _ => not_misplaced rfl rfl (by simp)]
    exact appendChecked_eq_error_iff
  | reset | timestamps | append _ =>
    rw [refuses_iff_misplaced rfl]
    exact iff_of_false nofun (not_misplaced rfl rfl nofun)
  | nullable | default _ | unique =>
    rw [refuses_iff_misplaced rfl, misplaced_column_iff rfl rfl]
    exact modifyColumn_eq_error_iff
  | references _ | on _ =>
    -- the stage is looked at before the identifier
    rw [refuses_iff_check rfl, forall_not_misplaced_iff rfl rfl, misplaced_foreignKey_iff rfl rfl]
    exact modifyForeignKey_eq_error_iff
  | cascadeOnDelete =>
    rw [refuses_iff_misplaced rfl, misplaced_foreignKey_iff rfl rfl]
    exact modifyForeignKey_eq_error_iff.trans (or_iff_left fun h => nomatch h.2)
  | replaceLast f =>
    rw [refuses_iff_misplaced rfl, misplaced_replaceLast_iff]
    exact replaceLast_eq_error_iff
  | create =>
    rw [refuses_iff_misplaced rfl, misplaced_create_iff]
    exact create_eq_error_iff
  | drop =>
    rw [refuses_iff_misplaced rfl, misplaced_drop_iff]
    exact drop_eq_error_iff

/-- A call succeeds exactly if it fits and the mode accepts its identifier. -/
theorem exists_reply_eq_ok_iff : (∃ sql, (t.perform c).reply = .ok sql) ↔
    (∀ e, ¬t.Misplaced c e) ∧ ∀ i, c.identifier? = some i → t.check i = .ok () := by
  have hrefuses : (∃ sql, (t.perform c).reply = .ok sql) ↔ ∀ e, ¬t.Refuses c e := by
    simp only [← reply_eq_error_iff]
    cases (t.perform c).reply <;> simp
  rw [hrefuses]
  cases hi : c.identifier? with
  | none => simp [refuses_iff_misplaced hi]
  | some i =>
    simp only [refuses_iff_check hi, not_or, not_and, forall_and, Option.some.injEq,
      forall_eq']
    refine and_congr_right fun hfits => ?_
    cases t.check i <;> simp [hfits]

/-! ### What a refused call leaves -/

end Table

/-- The outcome leaves `t` unless the call succeeded. -/
def Outcome.Keeps (o : Outcome) (t : Table) : Prop :=
  ∀ e, o.reply = .error e → o.table = t

namespace Table

variable {t t' : Table} {events : List TableEvent}

theorem keeps_refuse {e : TableError} : (t.refuse e).Keeps t := fun _ _ => rfl

theorem keeps_accept : (t'.accept events).Keeps t := nofun

theorem keeps_answer {sql : String} : (t'.answer sql events).Keeps t := nofun

theorem keeps_setName (name : String) : (t.setName name).Keeps t := by
  unfold setName
  split
  · exact keeps_refuse
  · split
    · exact keeps_refuse
    · exact keeps_accept

theorem keeps_appendChecked (f : Fragment) : (t.appendChecked f).Keeps t := by
  unfold appendChecked
  split
  · exact keeps_refuse
  · exact keeps_accept

theorem keeps_modifyColumn (m : Modifier) (change : Column → Column) :
    (t.modifyColumn m change).Keeps t := by
  unfold modifyColumn
  split
  · exact keeps_refuse
  · exact keeps_refuse
  · exact keeps_accept

theorem keeps_modifyForeignKey (m : Modifier) (s : ForeignKey.Stage)
    (argument : Except TableError Unit) (change : ForeignKey → ForeignKey) :
    (t.modifyForeignKey m s argument change).Keeps t := by
  unfold modifyForeignKey
  split
  · exact keeps_refuse
  · exact keeps_refuse
  · split
    · -- the stage was right, so the event is told even if the argument is refused
      cases argument with
      | error e => exact fun _ _ => rfl
      | ok => exact keeps_accept
    · exact keeps_refuse

theorem keeps_replaceLast (f : Fragment) : (t.replaceLast f).Keeps t := by
  unfold replaceLast
  split
  · exact keeps_refuse
  · exact keeps_accept

theorem keeps_create : t.create.Keeps t := by
  unfold create
  split
  · exact keeps_refuse
  · split
    · -- some texts may have been written, but the fragments are cleared only after the last
      exact keeps_refuse
    · exact keeps_answer

theorem keeps_drop : t.drop.Keeps t := by
  unfold drop
  split
  · exact keeps_refuse
  · exact keeps_answer

/-- Whatever a refused call has looked at, it has written nothing. -/
theorem keeps_perform (t : Table) (c : Call) : (t.perform c).Keeps t := by
  cases c with
  | setName name => exact keeps_setName name
  | reset | timestamps | append _ => exact keeps_accept
  | column _ _ | foreign _ => exact keeps_appendChecked _
  | nullable | default _ | unique => exact keeps_modifyColumn _ _
  | references _ | on _ | cascadeOnDelete => exact keeps_modifyForeignKey _ _ _ _
  | replaceLast f => exact keeps_replaceLast f
  | create => exact keeps_create
  | drop => exact keeps_drop

/-- **Refused calls are atomic.**  A call fails exactly with the errors for which the table refuses
it, and then the name, the fragments, the dialect and the mode are what they were. -/
theorem refused_call_changes_nothing (t : Table) (c : Call) (e : TableError) :
    (t.perform c).reply = .error e ↔ t.Refuses c e ∧ (t.perform c).table = t :=
  ⟨fun h => ⟨reply_eq_error_iff.1 h, keeps_perform t c e h⟩, fun h => reply_eq_error_iff.2 h.1⟩

end Table

end Schemata
