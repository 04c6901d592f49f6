import Mathlib.Data.List.Forall2
import Schemata.Fragment

/-!
# Complete fragments

A column always has a text; a foreign key has one once both of its sides are known.  So the texts
of a list of fragments exist exactly when every fragment is complete, and otherwise the first
fragment that is not complete tells the error.

* `Fragment.renderAll_eq_ok_iff` — the texts stand for the fragments position by position;
* `Fragment.renderAll_eq_error_iff` — the error is that of the first incomplete foreign key;
* `Fragment.firstIncomplete?` — this foreign key.
-/

namespace Schemata

namespace ForeignKey

variable {k : ForeignKey}

theorem stage_eq_complete_iff :
    k.stage = .complete ↔ ∃ column table, k.references = some column ∧ k.table = some table := by
  cases hr : k.references <;> cases ht : k.table <;> simp [stage, hr, ht]

theorem render_eq_error_iff {e : TableError} :
    k.render = .error e ↔
      k.stage ≠ .complete ∧ e = .incompleteForeignKey k.column k.stage.expected := by
  cases hr : k.references <;> cases ht : k.table <;> simp [render, stage, hr, ht, eq_comm]

end ForeignKey

namespace Fragment

/-- Whether the fragment has a text. -/
def IsComplete : Fragment → Prop
  | .column _ => True
  | .foreignKey k => k.stage = .complete

instance : DecidablePred IsComplete
  | .column _ => inferInstanceAs (Decidable True)
  | .foreignKey k => inferInstanceAs (Decidable (k.stage = .complete))

variable {d : Dialect} {f : Fragment} {fs : List Fragment} {e : TableError}

theorem render_eq_error_iff :
    f.render d = .error e ↔ ∃ k, f = .foreignKey k ∧ k.stage ≠ .complete ∧
      e = .incompleteForeignKey k.column k.stage.expected := by
  cases f with
  | column c => simp [render]
  | foreignKey k => simp [render, ForeignKey.render_eq_error_iff]

theorem isComplete_iff : f.IsComplete ↔ ∃ text, f.render d = .ok text := by
  cases f with
  | column c => simp [IsComplete, render]
  | foreignKey k =>
    cases h : k.render with
    | error e => simpa [IsComplete, render, h] using (ForeignKey.render_eq_error_iff.1 h).1
    | ok text =>
      have hk : k.stage = .complete := by
        by_contra hs
        cases h.symm.trans (ForeignKey.render_eq_error_iff.2 ⟨hs, rfl⟩)
      simp [IsComplete, render, h, hk]

/-! ### Lists of fragments -/

theorem renderAll_eq_ok_iff {texts : List String} :
    renderAll d fs = .ok texts ↔ List.Forall₂ (fun f text => f.render d = .ok text) fs texts := by
  induction fs generalizing texts with
  | nil => simp [renderAll, eq_comm]
  | cons f fs ih =>
    rw [List.forall₂_cons_left_iff]
    cases hf : f.render d with
    | error e => simp [renderAll, hf]
    | ok text =>
      cases hfs : renderAll d fs with
      | error e =>
        have hno : ∀ ts, ¬List.Forall₂ (fun f text => f.render d = .ok text) fs ts := by
          intro ts h
          cases hfs.symm.trans (ih.2 h)
        simp [renderAll, hf, hfs, hno]
      | ok ts =>
        simp only [renderAll, hf, hfs, Except.ok.injEq]
        constructor
        · rintro rfl
          exact ⟨text, ts, rfl, ih.1 hfs, rfl⟩
        · rintro ⟨_, us, rfl, hus, rfl⟩
          rw [Except.ok.inj (hfs.symm.trans (ih.2 hus))]

/-- The texts of fragments in a row stand in a row. -/
theorem renderAll_append_eq_ok_iff {gs : List Fragment} {texts : List String} :
    renderAll d (fs ++ gs) = .ok texts ↔ ∃ us vs, renderAll d fs = .ok us ∧
      renderAll d gs = .ok vs ∧ texts = us ++ vs := by
  induction fs generalizing texts with
  | nil => simp [renderAll, eq_comm]
  | cons f fs ih =>
    simp only [List.cons_append, renderAll_eq_ok_iff, List.forall₂_cons_left_iff] at ih ⊢
    simp only [ih]
    constructor
    · rintro ⟨text, _, hf, ⟨us, vs, hus, hvs, rfl⟩, rfl⟩
      exact ⟨text :: us, vs, ⟨text, us, hf, hus, rfl⟩, hvs, rfl⟩
    · rintro ⟨_, vs, ⟨text, us, hf, hus, rfl⟩, hvs, rfl⟩
      exact ⟨text, us ++ vs, hf, ⟨us, vs, hus, hvs, rfl⟩, rfl⟩

theorem renderAll_eq_error_iff :
    renderAll d fs = .error e ↔ ∃ before k after, fs = before ++ .foreignKey k :: after ∧
      (∀ f ∈ before, f.IsComplete) ∧ k.stage ≠ .complete ∧
      e = .incompleteForeignKey k.column k.stage.expected := by
  induction fs with
  | nil => simp [renderAll]
  | cons f fs ih =>
    simp only [List.cons_eq_append_iff]
    cases hf : f.render d with
    | error e' =>
      obtain ⟨k, rfl, hk, rfl⟩ := render_eq_error_iff.1 hf
      simp only [renderAll, hf, Except.error.injEq]
      constructor
      · rintro rfl
        exact ⟨[], k, fs, .inl ⟨rfl, rfl⟩, by simp, hk, rfl⟩
      · rintro ⟨before, k', after, ⟨rfl, h⟩ | ⟨rest, rfl, -⟩, hb, -, rfl⟩
        · obtain ⟨rfl, -⟩ := by simpa using h
          rfl
        · exact absurd (hb (.foreignKey k) (by simp)) hk
    | ok text =>
      have hfc : f.IsComplete := isComplete_iff.2 ⟨text, hf⟩
      have hrest : renderAll d (f :: fs) = .error e ↔ renderAll d fs = .error e := by
        cases hfs : renderAll d fs <;> simp [renderAll, hf, hfs]
      rw [hrest, ih]
      constructor
      · rintro ⟨before, k, after, rfl, hb, hk⟩
        exact ⟨f :: before, k, after, .inr ⟨before, rfl, rfl⟩, by simpa using ⟨hfc, hb⟩, hk⟩
      · rintro ⟨before, k, after, ⟨rfl, h⟩ | ⟨rest, rfl, h⟩, hb, hk, he⟩
        · obtain ⟨rfl, -⟩ := by simpa using h
          exact absurd hfc hk
        · exact ⟨rest, k, after, h, fun g hg => hb g (List.mem_cons_of_mem _ hg), hk, he⟩

theorem exists_renderAll_eq_ok (d : Dialect) (h : ∀ f ∈ fs, f.IsComplete) :
    ∃ texts, renderAll d fs = .ok texts := by
  cases hr : renderAll d fs with
  | ok texts => exact ⟨texts, rfl⟩
  | error e =>
    obtain ⟨before, k, after, rfl, -, hk, -⟩ := renderAll_eq_error_iff.1 hr
    exact absurd (h (.foreignKey k) (by simp)) hk

/-! ### The first incomplete foreign key -/

/-- The foreign key of the fragment, if it is one that has no text. -/
def incomplete? : Fragment → Option ForeignKey
  | .column _ => none
  | .foreignKey k => if k.stage = .complete then none else some k

/-- The first foreign key that has no text. -/
def firstIncomplete? (fs : List Fragment) : Option ForeignKey :=
  fs.findSome? incomplete?

variable {k : ForeignKey}

theorem incomplete?_eq_none_iff : f.incomplete? = none ↔ f.IsComplete := by
  cases f <;> simp [incomplete?, IsComplete]

theorem incomplete?_eq_some_iff :
    f.incomplete? = some k ↔ f = .foreignKey k ∧ k.stage ≠ .complete := by
  cases f with
  | column c => simp [incomplete?]
  | foreignKey k' =>
    simp only [incomplete?, Option.ite_none_left_eq_some, Option.some.injEq,
      Fragment.foreignKey.injEq]
    constructor <;> rintro ⟨h, h'⟩ <;> simp_all

theorem firstIncomplete?_eq_none_iff :
    firstIncomplete? fs = none ↔ ∀ f ∈ fs, f.IsComplete := by
  simp only [firstIncomplete?, List.findSome?_eq_none_iff, incomplete?_eq_none_iff]

theorem firstIncomplete?_eq_some_iff : firstIncomplete? fs = some k ↔
    ∃ before after, fs = before ++ .foreignKey k :: after ∧ (∀ f ∈ before, f.IsComplete) ∧
      k.stage ≠ .complete := by
  simp only [firstIncomplete?, List.findSome?_eq_some_iff, incomplete?_eq_none_iff,
    incomplete?_eq_some_iff]
  constructor
  · rintro ⟨before, f, after, h, ⟨rfl, hk⟩, hb⟩
    exact ⟨before, after, h, hb, hk⟩
  · rintro ⟨before, after, h, hb, hk⟩
    exact ⟨before, _, after, h, ⟨rfl, hk⟩, hb⟩

theorem renderAll_eq_error_iff_firstIncomplete? : renderAll d fs = .error e ↔
    ∃ k, firstIncomplete? fs = some k ∧ e = .incompleteForeignKey k.column k.stage.expected := by
  rw [renderAll_eq_error_iff]
  simp only [firstIncomplete?_eq_some_iff]
  constructor
  · rintro ⟨before, k, after, h, hb, hk, he⟩
    exact ⟨k, ⟨before, after, h, hb, hk⟩, he⟩
  · rintro ⟨k, ⟨before, after, h, hb, hk⟩, he⟩
    exact ⟨before, k, after, h, hb, hk, he⟩

end Fragment

end Schemata
