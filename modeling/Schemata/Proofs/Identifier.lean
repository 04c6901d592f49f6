import Schemata.Table.Error

/-!
# Valid identifiers

An identifier is valid if no rule is broken, so the first broken rule of `Identifier.fault?`
decides, and a valid identifier keeps all of them at once.

* `Identifier.fault?_eq_none_iff` — the rules together;
* `Identifier.isTail_of_validate`, `Identifier.isReserved_of_validate` — what a valid identifier
  consists of, and what it is not.
-/

namespace Schemata

namespace Identifier

variable {s : String}

theorem isTail_of_isHead {c : Char} (h : isHead c = true) : isTail c = true := by
  simp only [isHead, isTail, Char.isAlphanum, Bool.or_eq_true] at *
  rcases h with h | h
  · exact .inl (.inl h)
  · exact .inr h

theorem fault?_eq_none_iff : fault? s = none ↔
    ∃ c cs, s.toList = c :: cs ∧ isHead c = true ∧ (∀ x ∈ cs, isTail x = true) ∧
      s.utf8ByteSize ≤ maxLength ∧ isReserved s = false := by
  cases hs : s.toList with
  | nil => simp [fault?, hs]
  | cons c cs =>
    simp only [fault?, hs]
    constructor
    · intro h
      split at h
      · cases h
      next hhead =>
        split at h
        · cases h
        next htail =>
          split at h
          · cases h
          next hlength =>
            split at h
            · cases h
            next hreserved =>
              exact ⟨c, cs, rfl, by simpa using hhead, by simpa using htail, by omega,
                by simpa using hreserved⟩
    · rintro ⟨c', cs', heq, hhead, htail, hlength, hreserved⟩
      obtain ⟨rfl, rfl⟩ := List.cons.inj heq
      have hall : cs.all isTail = true := List.all_eq_true.2 htail
      simp [hhead, hall, hreserved, Nat.not_lt.2 hlength]

theorem validate_eq_ok_iff : validate s = .ok () ↔ fault? s = none := by
  cases h : fault? s <;> simp [validate, h]

theorem isTail_of_validate (h : validate s = .ok ()) : ∀ c ∈ s.toList, isTail c = true := by
  obtain ⟨c, cs, hs, hhead, htail, -⟩ := fault?_eq_none_iff.1 (validate_eq_ok_iff.1 h)
  rw [hs]
  intro x hx
  rcases List.mem_cons.1 hx with rfl | hx
  · exact isTail_of_isHead hhead
  · exact htail x hx

theorem isReserved_of_validate (h : validate s = .ok ()) : isReserved s = false := by
  obtain ⟨-, -, -, -, -, -, hreserved⟩ := fault?_eq_none_iff.1 (validate_eq_ok_iff.1 h)
  exact hreserved

/-- A reserved word is no identifier. -/
theorem ne_of_validate {word : String} (h : validate s = .ok ()) (hword : isReserved word = true) :
    s ≠ word := by
  rintro rfl
  simp [isReserved_of_validate h] at hword

end Identifier

end Schemata
