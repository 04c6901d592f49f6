import Schemata.Identifier
import Schemata.Skeleton.Basic

/-!
# The characters of skeleton names

Bringing a name into its normal form drops characters or makes them underscores, so it leaves ASCII
letters, digits and underscores only.  A file stem has the digits of a time and a minus sign
besides.

* `SkeletonName.isTail_of_mem_normalize?` — the characters of a name in normal form;
* `Skeleton.not_mem_fileStem` — no slash is in a file stem.
-/

namespace Schemata

namespace SkeletonName

variable {c : Char} {cs name : List Char}

theorem mem_of_mem_mergePairs (h : c ∈ mergePairs cs) : c ∈ cs := by
  fun_induction mergePairs cs with
  | case1 cs ih =>
    rcases List.mem_cons.1 h with rfl | h
    · simp
    · simp [ih h]
  | case2 d cs _ ih =>
    rcases List.mem_cons.1 h with rfl | h
    · simp
    · simp [ih h]
  | case3 => cases h

theorem mem_of_mem_collapse (h : c ∈ collapse cs) : c ∈ cs := by
  fun_induction collapse cs with
  | case1 cs _ ih => exact mem_of_mem_mergePairs (ih h)
  | case2 => exact h

theorem mem_of_mem_trimUnderscores (h : c ∈ trimUnderscores cs) : c ∈ cs := by
  rw [trimUnderscores, List.mem_reverse] at h
  exact List.dropWhile_subset _ (List.mem_reverse.1 (List.dropWhile_subset _ h))

theorem isTail_keepUsable (c : Char) : Identifier.isTail (keepUsable c) = true := by
  unfold keepUsable
  split
  next h => simp [Identifier.isTail, h]
  next => decide

/-- A name in normal form is made of ASCII letters, digits and underscores. -/
theorem isTail_of_mem_normalize? (h : normalize? cs = some name) (hc : c ∈ name) :
    Identifier.isTail c = true := by
  have hall : ∀ d ∈ trimUnderscores (collapse ((snake cs).map keepUsable)),
      Identifier.isTail d = true := by
    intro d hd
    obtain ⟨e, -, rfl⟩ := List.mem_map.1 (mem_of_mem_collapse (mem_of_mem_trimUnderscores hd))
    exact isTail_keepUsable e
  unfold normalize? at h
  split at h
  next => cases h
  next d ds htrim =>
    split at h
    · cases h
    · cases h
      exact hall c (htrim ▸ hc)

end SkeletonName

namespace Decimal

/-- A numeral has digits, and a minus sign if it is negative. -/
theorem mem_ofInt {n : Int} {c : Char} (h : c ∈ (ofInt n).toList) :
    c.isDigit = true ∨ c = '-' ∧ n < 0 := by
  cases n with
  | ofNat n => exact .inl (isDigit_of_mem_digits (by simpa [ofInt, ofNat] using h))
  | negSucc n =>
    have hsign : c = '-' ∨ c ∈ digits (n + 1) := by simpa [ofInt, ofNat] using h
    rcases hsign with rfl | hdigit
    · exact .inr ⟨rfl, Int.negSucc_lt_zero n⟩
    · exact .inl (isDigit_of_mem_digits hdigit)

end Decimal

namespace Skeleton

variable {kind : SkeletonKind} {seconds : Int} {s : Skeleton}

/-- No slash is in a file stem. -/
theorem not_mem_fileStem {name : String} (h : render kind name seconds = .ok s) :
    '/' ∉ s.fileStem.toList := by
  unfold render at h
  split at h
  next => cases h
  next name hname =>
    cases h
    have hslash : '/' ∉ name := by
      intro hmem
      exact absurd (SkeletonName.isTail_of_mem_normalize? hname hmem) (by decide)
    have htime : '/' ∉ (Decimal.ofInt seconds).toList := by
      intro hmem
      rcases Decimal.mem_ofInt hmem with hd | ⟨hd, -⟩
      · exact absurd hd (by decide)
      · exact absurd hd (by decide)
    cases kind <;> simp [ofName, stem, hslash, htime]

end Skeleton

end Schemata
