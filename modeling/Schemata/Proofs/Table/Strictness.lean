import Schemata.Proofs.Identifier
import Schemata.Proofs.Table.Switch

/-!
# Strict tables

A strict table is a permissive one with a filter.  A call that does not fit what the table holds is
refused in both modes alike, before the identifier is looked at; a call that fits does the same in
both modes if it has no identifier or a valid one, and otherwise only the strict table refuses it.

* `Table.inMode`, `Outcome.inMode` — one content, and one outcome, in the two modes;
* `Table.perform_of_misplaced`, `Table.perform_inMode_of_not_offends`,
  `Table.reply_of_offends` — the three cases;
* `Table.performAll_inMode` — sequences of calls in which no identifier is refused.
-/

namespace Schemata

/-! ### Modes -/

/-- The table with the same content in the given mode. -/
def Table.inMode (strict : Bool) (t : Table) : Table :=
  { t with strict }

/-- The outcome with its table in the given mode. -/
def Outcome.inMode (strict : Bool) (o : Outcome) : Outcome :=
  { o with table := o.table.inMode strict }

@[simp]
theorem Outcome.reply_inMode (b : Bool) (o : Outcome) : (o.inMode b).reply = o.reply := rfl

@[simp]
theorem Outcome.table_inMode (b : Bool) (o : Outcome) : (o.inMode b).table = o.table.inMode b := rfl

/-- The identifier of the call is not valid. -/
def Call.Offends (c : Call) : Prop :=
  ∃ i, c.identifier? = some i ∧ Identifier.validate i ≠ .ok ()

namespace Table

variable {t : Table} {c : Call} {e : TableError} {sql : Option String}

@[simp]
theorem dialect_inMode (b : Bool) (t : Table) : (t.inMode b).dialect = t.dialect := rfl

@[simp]
theorem name_inMode (b : Bool) (t : Table) : (t.inMode b).name = t.name := rfl

@[simp]
theorem fragments_inMode (b : Bool) (t : Table) : (t.inMode b).fragments = t.fragments := rfl

/-! ### Calls that do not fit -/

theorem Misplaced.inMode (h : t.Misplaced c e) (b : Bool) : (t.inMode b).Misplaced c e := by
  cases h with
  | emptyName => exact .emptyName
  | noFragment hm ht => exact .noFragment hm ht
  | notAColumn hm hc ht => exact .notAColumn hm hc ht
  | notAForeignKey hm hs ht => exact .notAForeignKey hm hs ht
  | outOfOrder hm hs ht hk => exact .outOfOrder hm hs ht hk
  | noName hc ht => exact .noName hc ht
  | incomplete hn ht hb hk => exact .incomplete hn ht hb hk

/-- The mode has no part in whether a call fits. -/
theorem misplaced_inMode_iff {b : Bool} : (t.inMode b).Misplaced c e ↔ t.Misplaced c e :=
  ⟨fun h => h.inMode t.strict, fun h => h.inMode b⟩

/-- A call that does not fit is refused without a word. -/
theorem perform_of_misplaced (h : t.Misplaced c e) : t.perform c = t.refuse e := by
  cases h with
  | emptyName => simp [perform, setName]
  | noFragment hm ht =>
    cases c <;> cases hm <;> simp [perform, nullable, setDefault, unique, references, on,
      cascadeOnDelete, replaceLast, modifyColumn, modifyForeignKey, ht]
  | notAColumn hm hc ht =>
    cases c <;> cases hm <;> cases hc <;>
      simp [perform, nullable, setDefault, unique, modifyColumn, ht]
  | notAForeignKey hm hs ht =>
    cases c <;> cases hm <;> cases hs <;>
      simp [perform, references, on, cascadeOnDelete, modifyForeignKey, ht]
  | outOfOrder hm hs ht hk =>
    cases c <;> cases hm <;> cases hs <;>
      simp [perform, references, on, cascadeOnDelete, modifyForeignKey, ht, hk]
  | noName hc ht => cases c <;> cases hc <;> simp [perform, create, drop, ht]
  | incomplete hn ht hb hk =>
    have hr := Fragment.renderAll_eq_error_iff (d := t.dialect).2 ⟨_, _, _, ht, hb, hk, rfl⟩
    simp [perform, create, hn, hr]

/-! ### Calls that fit -/

theorem create_inMode (b : Bool) : (t.inMode b).create = t.create.inMode b := by
  unfold create
  rw [name_inMode, fragments_inMode, dialect_inMode]
  split
  · rfl
  · split <;> rfl

/-- A call without an identifier, or with a valid one, does the same in both modes. -/
theorem perform_inMode_of_not_offends (h : ¬c.Offends) (t : Table) (b : Bool) :
    (t.inMode b).perform c = (t.perform c).inMode b := by
  by_cases hc : c = .create
  · subst hc
    exact create_inMode b
  · have hchecked : ∀ i, c.identifier? = some i → ∀ t : Table, t.check i = .ok () := by
      intro i hi t
      refine check_eq_ok_iff.2 fun _ => ?_
      by_contra hv
      exact h ⟨i, hi, hv⟩
    refine perform_switch (g := fun p => (p.1, b)) hc fun i hi => ?_
    rw [hchecked i hi, hchecked i hi]

theorem exists_fault_of_offends (h : c.Offends) :
    ∃ i f, c.identifier? = some i ∧ Identifier.fault? i = some f := by
  obtain ⟨i, hi, hv⟩ := h
  obtain ⟨f, hf⟩ := Option.ne_none_iff_exists'.1 fun hf => hv (Identifier.validate_eq_ok_iff.2 hf)
  exact ⟨i, f, hi, hf⟩

/-- A call that fits but has an invalid identifier is refused by the strict table. -/
theorem reply_of_offends (h : c.Offends) (hfits : ∀ e, ¬t.Misplaced c e) :
    ∃ i f, c.identifier? = some i ∧
      ((t.inMode true).perform c).reply = .error (.invalidIdentifier i f) := by
  obtain ⟨i, f, hi, hf⟩ := exists_fault_of_offends h
  have hrefuses : (t.inMode true).Refuses c (.invalidIdentifier i f) :=
    .invalid rfl hi hf fun e he => hfits e (misplaced_inMode_iff.1 he)
  exact ⟨i, f, hi, reply_eq_error_iff.2 hrefuses⟩

/-! ### The filter -/

theorem misplaced_of_permissive_error (h : ((t.inMode false).perform c).reply = .error e) :
    t.Misplaced c e := by
  cases reply_eq_error_iff.1 h with
  | misplaced h => exact misplaced_inMode_iff.1 h
  | invalid hs _ _ _ => cases hs

/-- What the permissive table refuses, the strict one refuses for the same cause. -/
theorem strict_of_permissive_error (h : ((t.inMode false).perform c).reply = .error e) :
    ((t.inMode true).perform c).reply = .error e := by
  rw [perform_of_misplaced ((misplaced_of_permissive_error h).inMode true)]
  rfl

/-- What the permissive table accepts, the strict one does as well, unless the identifier of the
call is not valid. -/
theorem strict_of_permissive_ok (h : ((t.inMode false).perform c).reply = .ok sql) :
    (¬c.Offends ∧ ((t.inMode true).perform c).reply = .ok sql ∧
      ((t.inMode true).perform c).table = ((t.inMode false).perform c).table.inMode true) ∨
    (c.Offends ∧ (∃ i f, c.identifier? = some i ∧
      ((t.inMode true).perform c).reply = .error (.invalidIdentifier i f)) ∧
      ((t.inMode true).perform c).table = t.inMode true) := by
  by_cases hc : c.Offends
  · have hfits := (exists_reply_eq_ok_iff.1 ⟨sql, h⟩).1
    obtain ⟨i, f, hi, hr⟩ := reply_of_offends hc fun e he => hfits e (he.inMode false)
    exact .inr ⟨hc, ⟨i, f, hi, hr⟩, keeps_perform _ c _ hr⟩
  · have hsame := perform_inMode_of_not_offends hc (t.inMode false) true
    rw [show (t.inMode false).inMode true = t.inMode true from rfl] at hsame
    exact .inl ⟨hc, hsame ▸ h, hsame ▸ rfl⟩

/-- Unless it refuses an identifier, a strict table does what the permissive one does. -/
theorem perform_inMode
    (h : ∀ i f, ((t.inMode true).perform c).reply ≠ .error (.invalidIdentifier i f)) :
    (t.inMode true).perform c = (t.perform c).inMode true := by
  by_cases hc : c.Offends
  · -- a call that does not fit is refused for that, whatever its identifier is
    by_cases hm : ∃ e, t.Misplaced c e
    · obtain ⟨e, hm⟩ := hm
      rw [perform_of_misplaced hm, perform_of_misplaced (hm.inMode true)]
      rfl
    · obtain ⟨i, f, -, hr⟩ := reply_of_offends hc fun e he => hm ⟨e, he⟩
      exact absurd hr (h i f)
  · exact perform_inMode_of_not_offends hc t true

/-- As long as no identifier is refused, the two modes give the same outcomes one by one. -/
theorem performAll_inMode {cs : List Call} (h : ∀ o ∈ (t.inMode true).performAll cs,
    ∀ i f, o.reply ≠ .error (.invalidIdentifier i f)) :
    (t.inMode true).performAll cs = (t.performAll cs).map (Outcome.inMode true) := by
  induction cs generalizing t with
  | nil => rfl
  | cons c cs ih =>
    simp only [performAll, List.forall_mem_cons, List.map_cons] at h ⊢
    have hfirst := perform_inMode h.1
    rw [hfirst, Outcome.table_inMode] at h ⊢
    rw [ih h.2]

end Table

end Schemata
