import Schemata.Event
import Schemata.Proofs.Table.History
import Schemata.Proofs.Table.Strictness

/-!
# What tables tell

An accepted call tells what it did: each fragment that it added, the modifier and the column that
it reached, or the statement that it wrote.  A refused call tells nothing, with one exception.
`references` and `on` tell that they found their foreign key before they look at their identifier,
so a strict table may refuse them after their event.

* `Event.line` — an event as the log shows it;
* `Table.gained`, `Table.reached` — what a call added, and what its modifier is about;
* `Table.lines_of_ok`, `Table.lines_of_error` — accepted and refused calls;
* `Table.lines_match_mutations` — both together.
-/

namespace Schemata

/-! ### Lines of a log -/

/-- A line of a log. -/
structure Event.Line where
  /-- How much attention it asks for. -/
  level : Level
  /-- What happened. -/
  message : String
  /-- The details under their names. -/
  fields : List (String × String)
deriving DecidableEq, Repr

/-- The event as the log shows it. -/
def Event.line (e : Event) : Event.Line :=
  { level := e.level, message := e.message, fields := e.fields }

/-- What the log shows of a call on a table. -/
def Outcome.lines (o : Outcome) : List Event.Line :=
  o.events.map fun e => (Event.table e).line

namespace Fragment

/-- The line that tells that the fragment was added. -/
def appendedLine (f : Fragment) : Event.Line :=
  { level := .debug, message := "Appending fragment", fields := [("fragment", f.name)] }

/-- The message of a modifier of the fragment. -/
def modifiedMessage : Fragment → String
  | .column _ => "Modifying column"
  | .foreignKey _ => "Modifying foreign key"

/-- The line that tells that the modifier reached the fragment. -/
def modifiedLine (m : Modifier) (f : Fragment) : Event.Line :=
  { level := .debug, message := f.modifiedMessage
    fields := [("column", f.name), ("modifier", m.name)] }

end Fragment

namespace Table

/-- The line that tells that a statement with so many fragments was written. -/
def exportedLine (name : String) (d : Dialect) (fragments : Nat) : Event.Line :=
  { level := .debug, message := "Exported table"
    fields := [("table", name), ("dialect", d.name), ("fragments", Decimal.ofNat fragments)] }

variable (t : Table) (c : Call)

/-- The fragments that the call added: those of the table that it left, beyond the old number. -/
def gained : List Fragment :=
  (t.perform c).table.fragments.drop t.fragments.length

/-- The lines of a modifier of the last fragment.  Putting another fragment in its place is not
told. -/
def reached : List Event.Line :=
  match c.modifier?, t.fragments.getLast? with
  | some .setLast, _ => []
  | some m, some f => [f.modifiedLine m]
  | _, _ => []

variable {t c}

theorem reached_of_modifier? {m : Modifier} {f : Fragment} (hm : c.modifier? = some m)
    (hne : m ≠ .setLast) (hl : t.fragments.getLast? = some f) :
    t.reached c = [f.modifiedLine m] := by
  cases m <;> simp_all [reached]

theorem reached_of_modifier?_eq_none (hm : c.modifier? = none) : t.reached c = [] := by
  simp [reached, hm]

/-! ### Accepted calls -/

variable {sql : Option String} {e : TableError}

theorem gained_of_ok (h : (t.perform c).reply = .ok sql) : t.gained c = c.added := by
  rw [gained, table_of_reply_eq_ok h]
  simp only [Call.reshape]
  split
  next hc => simp [Call.added_of_clears hc]
  next =>
    split
    next hm =>
      -- a modifier leaves as many fragments as there were
      rw [Call.added_of_isModifier hm, List.drop_eq_nil_iff]
      rcases List.eq_nil_or_concat' t.fragments with ht | ⟨fs, f, ht⟩ <;> simp [ht]
    next => simp

theorem lines_setName (name : String) : (t.setName name).lines = [] := by
  unfold setName
  split
  · rfl
  · split <;> rfl

theorem lines_appendChecked_of_ok {f : Fragment} (h : (t.appendChecked f).reply = .ok sql) :
    (t.appendChecked f).lines = [f.appendedLine] := by
  unfold appendChecked at h ⊢
  split at h
  next => cases h
  next => rfl

theorem lines_modifyColumn_of_ok {m : Modifier} {change : Column → Column}
    (hm : c.modifier? = some m) (hne : m ≠ .setLast)
    (h : (t.modifyColumn m change).reply = .ok sql) :
    (t.modifyColumn m change).lines = t.reached c := by
  obtain ⟨col, hl, -⟩ := modifyColumn_of_ok h
  rw [reached_of_modifier? hm hne hl, modifyColumn]
  simp only [hl]
  rfl

/-- The event of a modifier of foreign keys depends on the stage only. -/
theorem lines_modifyForeignKey {m : Modifier} {s : ForeignKey.Stage} {k : ForeignKey}
    {argument : Except TableError Unit} {change : ForeignKey → ForeignKey}
    (hm : c.modifier? = some m) (hne : m ≠ .setLast)
    (hl : t.fragments.getLast? = some (.foreignKey k)) (hk : k.stage = s) :
    (t.modifyForeignKey m s argument change).lines = t.reached c := by
  rw [reached_of_modifier? hm hne hl, modifyForeignKey]
  simp only [hl, if_pos hk]
  cases argument <;> rfl

theorem lines_modifyForeignKey_of_ok {m : Modifier} {s : ForeignKey.Stage}
    {argument : Except TableError Unit} {change : ForeignKey → ForeignKey}
    (hm : c.modifier? = some m) (hne : m ≠ .setLast)
    (h : (t.modifyForeignKey m s argument change).reply = .ok sql) :
    (t.modifyForeignKey m s argument change).lines = t.reached c := by
  obtain ⟨k, hl, hk, -⟩ := modifyForeignKey_of_ok h
  exact lines_modifyForeignKey hm hne hl hk

theorem lines_replaceLast (f : Fragment) : (t.replaceLast f).lines = [] := by
  unfold replaceLast
  split <;> rfl

theorem lines_drop : t.drop.lines = [] := by
  unfold drop
  split <;> rfl

theorem lines_create_of_ok {name : String} {texts : List String} (hn : t.name = some name)
    (hf : Fragment.renderAll t.dialect t.fragments = .ok texts) :
    t.create.lines = [exportedLine name t.dialect t.fragments.length] := by
  unfold create
  simp only [hn, hf]
  rfl

/-- An accepted call, other than the writing of a statement, tells what it added and what its
modifier reached. -/
theorem lines_of_ok (hc : c ≠ .create) (h : (t.perform c).reply = .ok sql) :
    (t.perform c).lines = (t.gained c).map Fragment.appendedLine ++ t.reached c := by
  rw [gained_of_ok h]
  cases c with
  | setName name => exact lines_setName name
  | reset => rfl
  | column _ _ | foreign _ => exact lines_appendChecked_of_ok h
  | timestamps | append _ => rfl
  | nullable | default _ | unique => exact lines_modifyColumn_of_ok rfl nofun h
  | references _ | on _ | cascadeOnDelete => exact lines_modifyForeignKey_of_ok rfl nofun h
  | replaceLast f => exact lines_replaceLast f
  | create => exact absurd rfl hc
  | drop => exact lines_drop

/-! ### Refused calls -/

theorem lines_appendChecked_of_error {f : Fragment} (h : (t.appendChecked f).reply = .error e) :
    (t.appendChecked f).lines = [] := by
  rw [appendChecked_eq_error_iff] at h
  unfold appendChecked
  rw [h]
  rfl

/-- A call that is refused for its identifier tells what its modifier reached. -/
theorem lines_of_invalid {i i' : String} {f : Identifier.Fault} (hi : c.identifier? = some i')
    (hfits : ∀ e, ¬t.Misplaced c e)
    (h : (t.perform c).reply = .error (.invalidIdentifier i f)) :
    (t.perform c).lines = t.reached c := by
  cases c with
  | setName name => exact lines_setName name
  | column _ _ | foreign _ => exact lines_appendChecked_of_error h
  | references _ | on _ =>
    -- the stage was right, or the call would not fit
    obtain ⟨k, hl, hk⟩ := (forall_not_misplaced_iff rfl rfl).1 hfits
    exact lines_modifyForeignKey rfl nofun hl hk
  | _ => cases hi

theorem lines_of_misplaced (h : t.Misplaced c e) : (t.perform c).lines = [] := by
  rw [perform_of_misplaced h]
  rfl

/-- A refused call tells nothing, unless it is a modifier that is refused for its identifier. -/
theorem lines_of_error (h : (t.perform c).reply = .error e) :
    (t.perform c).lines = match e with
      | .invalidIdentifier _ _ => t.reached c
      | _ => [] := by
  cases reply_eq_error_iff.1 h with
  | misplaced hm =>
    rw [lines_of_misplaced hm]
    -- a call that does not fit has another error
    cases hm <;> rfl
  | invalid _ hi _ hfits => exact lines_of_invalid hi hfits h

/-- The keys that a refusal is told for are those of `references` and `on`. -/
theorem exists_reached_of_invalid {m : Modifier} {i : String} {f : Identifier.Fault}
    (hm : c.modifier? = some m) (h : (t.perform c).reply = .error (.invalidIdentifier i f)) :
    (m = .references ∨ m = .on) ∧ t.strict = true ∧ ∃ k : ForeignKey,
      t.fragments.getLast? = some (.foreignKey k) ∧
        t.reached c = [(Fragment.foreignKey k).modifiedLine m] := by
  cases reply_eq_error_iff.1 h with
  | misplaced hmis => cases hmis
  | invalid hs hi _ hfits =>
    cases c with
    | references _ | on _ =>
      cases hm
      obtain ⟨k, hl, -⟩ := (forall_not_misplaced_iff rfl rfl).1 hfits
      exact ⟨by simp, hs, k, hl, reached_of_modifier? rfl nofun hl⟩
    | setName _ | column _ _ | foreign _ => cases hm
    | _ => cases hi

/-- A refused call tells something exactly if it is `references` or `on` and its identifier is
refused. -/
theorem lines_eq_nil_iff_of_error (h : (t.perform c).reply = .error e) :
    (t.perform c).lines = [] ↔ ¬((c.modifier? = some .references ∨ c.modifier? = some .on) ∧
      ∃ i f, e = .invalidIdentifier i f) := by
  rw [lines_of_error h]
  cases e with
  | invalidIdentifier i f =>
    cases hm : c.modifier? with
    | none => simp [reached_of_modifier?_eq_none hm]
    | some m =>
      obtain ⟨hm', -, k, -, hk⟩ := exists_reached_of_invalid hm h
      simp [hk, hm']
  | _ => simp

/-- An accepted modifier tells that it reached the last fragment. -/
theorem exists_lines_of_modifier {m : Modifier} (hm : c.modifier? = some m) (hne : m ≠ .setLast)
    (h : (t.perform c).reply = .ok sql) :
    ∃ f, t.fragments.getLast? = some f ∧ (t.perform c).lines = [f.modifiedLine m] := by
  have hc : c ≠ .create := by
    rintro rfl
    cases hm
  have hadded : c.added = [] := Call.added_of_isModifier (by simp [Call.isModifier, hm])
  cases hl : t.fragments.getLast? with
  | none =>
    -- an accepted modifier has a fragment to change
    have hfits := (exists_reply_eq_ok_iff.1 ⟨sql, h⟩).1
    exact absurd (.noFragment hm (List.getLast?_eq_none_iff.1 hl)) (hfits _)
  | some f =>
    refine ⟨f, rfl, ?_⟩
    rw [lines_of_ok hc h, gained_of_ok h, hadded, reached_of_modifier? hm hne hl]
    rfl

/-- An accepted export tells how many fragments its statement lists. -/
theorem exists_lines_of_create (h : t.create.reply = .ok sql) :
    ∃ name texts, t.name = some name ∧
      List.Forall₂ (fun f text => f.render t.dialect = .ok text) t.fragments texts ∧
      sql = some (createSql name texts) ∧
      t.create.lines = [exportedLine name t.dialect texts.length] := by
  obtain ⟨name, texts, hn, hf, hsql⟩ := create_reply_eq_ok_iff.1 h
  have hall := Fragment.renderAll_eq_ok_iff.1 hf
  exact ⟨name, texts, hn, hall, hsql, hall.length_eq ▸ lines_create_of_ok hn hf⟩

/-! ### All calls -/

/-- **Events match mutations.**  An accepted call tells, in order, the fragments that it added and
what its modifier reached, which for a modifier other than `setLast` is the last fragment; an
accepted export tells the number of fragments in its statement and nothing else.  A refused call
tells nothing, except that `references` and `on` tell that they reached their foreign key when a
strict table then refuses their identifier. -/
theorem lines_match_mutations (t : Table) (c : Call) :
    (∀ sql, (t.perform c).reply = .ok sql →
      t.gained c = c.added ∧
      (c ≠ .create →
        (t.perform c).lines = (t.gained c).map Fragment.appendedLine ++ t.reached c) ∧
      (∀ m, c.modifier? = some m → m ≠ .setLast →
        ∃ f, t.fragments.getLast? = some f ∧ (t.perform c).lines = [f.modifiedLine m]) ∧
      (c = .create → ∃ name texts, t.name = some name ∧
        List.Forall₂ (fun f text => f.render t.dialect = .ok text) t.fragments texts ∧
        sql = some (createSql name texts) ∧
        (t.perform c).lines = [exportedLine name t.dialect texts.length])) ∧
    (∀ e, (t.perform c).reply = .error e →
      ((t.perform c).lines = [] ↔
        ¬((c.modifier? = some .references ∨ c.modifier? = some .on) ∧
          ∃ i f, e = .invalidIdentifier i f)) ∧
      ∀ m i f, c.modifier? = some m → e = .invalidIdentifier i f → t.strict = true ∧
        ∃ k : ForeignKey, t.fragments.getLast? = some (.foreignKey k) ∧
          (t.perform c).lines = [(Fragment.foreignKey k).modifiedLine m]) := by
  refine ⟨fun sql h => ⟨gained_of_ok h, fun hc => lines_of_ok hc h,
    fun m hm hne => exists_lines_of_modifier hm hne h, ?_⟩,
    fun e h => ⟨lines_eq_nil_iff_of_error h, ?_⟩⟩
  · rintro rfl
    exact exists_lines_of_create h
  · rintro m i f hm rfl
    obtain ⟨-, hs, k, hl, hk⟩ := exists_reached_of_invalid hm h
    exact ⟨hs, k, hl, by rw [lines_of_error h, hk]⟩

/-- The referenced column of a foreign key is refused, but the log shows that the key was modified,
which it was not. -/
theorem lines_of_refused_reference :
    let t := (Table.checked .generic).after [.setName "posts", .foreign "user_id"]
    let o := t.perform (.references "user id")
    o.reply = .error (.invalidIdentifier "user id" .tail) ∧ o.table = t ∧
      o.lines =
        [{ level := .debug, message := "Modifying foreign key"
           fields := [("column", "user_id"), ("modifier", "references")] }] := by
  decide +kernel

end Table

end Schemata
