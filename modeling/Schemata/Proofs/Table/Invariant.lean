import Schemata.Proofs.Table.History

/-!
# Invariants of runs

A refused call changes nothing, so whatever the accepted calls keep holds after every run.  And an
accepted call has little to change: unless it takes the fragments away, they stay in their places,
only the last may become another one, and new ones come after it.

* `Call.isRaw` — the two calls that store a fragment as it is given;
* `Call.reshape_concat` — what an accepted call does to the fragments, with what it means for one
  property of all of them (`Call.forall_mem_reshape`) and for each in its place
  (`Call.getElem?_reshape`);
* `Table.after_induction` — an invariant of accepted calls is one of runs;
* `Table.IsBuilt` — the tables that runs without raw calls lead to.
-/

namespace Schemata

namespace Call

/-- Whether the call stores a fragment as it is given. -/
def isRaw : Call → Bool
  | .append _ | .replaceLast _ => true
  | _ => false

variable {c : Call} {fs : List Fragment} {f : Fragment}

/-! ### Fragments in their places -/

theorem reshape_nil (hc : c.clears = false) : c.reshape [] = c.added := by
  cases hm : c.isModifier <;> simp [reshape, hc, hm, added_of_isModifier]

/-- Unless it takes the fragments away, a call changes at most the last and adds after it. -/
theorem reshape_concat (hc : c.clears = false) (fs : List Fragment) (f : Fragment) :
    c.reshape (fs ++ [f]) = fs ++ (if c.isModifier then c.change f else f) :: c.added := by
  cases hm : c.isModifier <;> simp [reshape, hc, hm, added_of_isModifier]

theorem forall_mem_reshape {P : Fragment → Prop} (hfs : ∀ f ∈ fs, P f)
    (hadded : ∀ f ∈ c.added, P f)
    (hchange : c.isModifier = true → ∀ f, fs.getLast? = some f → P f → P (c.change f)) :
    ∀ f ∈ c.reshape fs, P f := by
  cases hc : c.clears with
  | true => simp [reshape, hc]
  | false =>
    rcases List.eq_nil_or_concat' fs with rfl | ⟨gs, g, rfl⟩
    · rwa [reshape_nil hc]
    · rw [reshape_concat hc]
      intro f hf
      rcases List.mem_append.1 hf with hf | hf
      · exact hfs f (List.mem_append_left _ hf)
      · rcases List.mem_cons.1 hf with rfl | hf
        · have hg : P g := hfs g (by simp)
          split
          next hm => exact hchange hm g (by simp) hg
          next => exact hg
        · exact hadded f hf

/-- Unless it takes the fragments away, a call keeps each in its place, and at most changes it if
it is the last. -/
theorem getElem?_reshape (hc : c.clears = false) {i : ℕ} (h : fs[i]? = some f) :
    (c.reshape fs)[i]? = some f ∨
      c.isModifier = true ∧ fs.getLast? = some f ∧ (c.reshape fs)[i]? = some (c.change f) := by
  rcases List.eq_nil_or_concat' fs with rfl | ⟨gs, g, rfl⟩
  · cases h
  · rw [reshape_concat hc]
    rcases Nat.lt_or_ge i gs.length with hi | hi
    · left
      rwa [List.getElem?_append_left hi] at h ⊢
    · -- the place is that of the last fragment
      rw [List.getElem?_append_right hi] at h ⊢
      obtain ⟨hi', rfl⟩ : i - gs.length = 0 ∧ g = f := by simpa [List.getElem?_singleton] using h
      rw [hi']
      cases hm : c.isModifier with
      | true => exact .inr ⟨rfl, by simp, by simp⟩
      | false => exact .inl (by simp)

end Call

namespace Table

variable {t : Table} {cs : List Call}

/-! ### Induction over runs -/

theorem after_append (t : Table) (cs cs' : List Call) :
    t.after (cs ++ cs') = (t.after cs).after cs' := by
  simp [after]

/-- What holds at first and is kept by the accepted ones of the allowed calls holds after every run
of allowed calls. -/
theorem after_induction {P : Table → Prop} {A : Call → Prop} (h : P t)
    (hstep : ∀ t c sql, A c → (t.perform c).reply = .ok sql → P t → P (t.perform c).table)
    (hcs : ∀ c ∈ cs, A c) : P (t.after cs) := by
  induction cs using List.reverseRecOn with
  | nil => exact h
  | append_singleton cs c ih =>
    have hrest := ih fun c hc => hcs c (List.mem_append_left _ hc)
    rw [after_append_singleton]
    cases hr : ((t.after cs).perform c).reply with
    | error e => rwa [keeps_perform _ c e hr]
    | ok sql => exact hstep _ c sql (hcs c (by simp)) hr hrest

/-- The table was made by a constructor and filled by calls that build their fragments. -/
def IsBuilt (t : Table) : Prop :=
  ∃ (o : Origin) (cs : List Call), (∀ c ∈ cs, c.isRaw = false) ∧ o.table.after cs = t

theorem fragments_origin (o : Origin) : o.table.fragments = [] := by
  cases o <;> rfl

end Table

end Schemata
