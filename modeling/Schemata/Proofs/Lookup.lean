import Mathlib.Data.List.Perm.Basic

/-!
# Lookups

What is looked up in a list whose keys are distinct does not depend on the order of the list.

* `Lookup.eq_some_iff_mem` — lookups and members;
* `Lookup.eq_of_perm` — lists in another order.
-/

namespace Schemata

namespace Lookup

variable {α β : Type} [BEq α] [LawfulBEq α] {l l' : List (α × β)} {a : α} {b : β}

/-- Under distinct keys every member is found. -/
theorem eq_some_iff_mem (hnodup : (l.map Prod.fst).Nodup) :
    l.lookup a = some b ↔ (a, b) ∈ l := by
  induction l with
  | nil => simp
  | cons p l ih =>
    obtain ⟨a', b'⟩ := p
    rw [List.map_cons, List.nodup_cons] at hnodup
    rw [List.lookup_cons]
    by_cases heq : a = a'
    · subst heq
      have hno : (a, b) ∉ l := fun h => hnodup.1 (List.mem_map.2 ⟨_, h, rfl⟩)
      simp [hno, eq_comm]
    · simp [beq_false_of_ne heq, heq, ih hnodup.2]

theorem eq_none_of_not_mem (h : a ∉ l.map Prod.fst) : l.lookup a = none := by
  rw [List.lookup_eq_none_iff]
  intro p hp
  have hne : a ≠ p.1 := fun heq => h (List.mem_map.2 ⟨p, hp, heq.symm⟩)
  simpa using hne

theorem eq_of_perm (hnodup : (l.map Prod.fst).Nodup) (h : l.Perm l') (a : α) :
    l.lookup a = l'.lookup a := by
  have hnodup' : (l'.map Prod.fst).Nodup := (h.map Prod.fst).nodup_iff.1 hnodup
  refine Option.ext fun b => ?_
  rw [eq_some_iff_mem hnodup, eq_some_iff_mem hnodup', h.mem_iff]

end Lookup

end Schemata
