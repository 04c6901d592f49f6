import Mathlib.Data.List.DropRight
import Schemata.Skeleton.Name

/-!
# Underscores in names

Merging runs of underscores and cutting them off at either end touches underscores only.  What is
left has no two underscores in a row and none at an end, and a text like this stays as it is.

* `SkeletonName.filter_collapse`, `SkeletonName.filter_trimUnderscores` — all other characters are
  kept in their order;
* `SkeletonName.hasPair_collapse`, `SkeletonName.collapse_eq_self` — runs of underscores;
* `SkeletonName.head?_trimUnderscores`, `SkeletonName.getLast?_trimUnderscores`,
  `SkeletonName.trimUnderscores_eq_self` — underscores at the ends.
-/

namespace Schemata

namespace SkeletonName

variable {c : Char} {cs : List Char}

/-! ### What is kept -/

section Filter

variable {p : Char → Bool} (hp : p '_' = false)
include hp

theorem filter_mergePairs (cs : List Char) : (mergePairs cs).filter p = cs.filter p := by
  fun_induction mergePairs cs with
  | case1 cs ih => simp [hp, ih]
  | case2 c cs _ ih => rw [List.filter_cons, List.filter_cons, ih]
  | case3 => rfl

theorem filter_collapse (cs : List Char) : (collapse cs).filter p = cs.filter p := by
  fun_induction collapse cs with
  | case1 cs _ ih => rw [ih, filter_mergePairs hp]
  | case2 => rfl

theorem filter_dropWhile_isUnderscore (cs : List Char) :
    (cs.dropWhile isUnderscore).filter p = cs.filter p := by
  induction cs with
  | nil => rfl
  | cons c cs ih =>
    rw [List.dropWhile_cons]
    split
    next hc =>
      obtain rfl : c = '_' := by simpa [isUnderscore] using hc
      rw [ih, List.filter_cons_of_neg (by simp [hp])]
    next => rfl

theorem filter_trimUnderscores (cs : List Char) :
    (trimUnderscores cs).filter p = cs.filter p := by
  rw [trimUnderscores, List.filter_reverse, filter_dropWhile_isUnderscore hp, List.filter_reverse,
    List.reverse_reverse, filter_dropWhile_isUnderscore hp]

end Filter

/-! ### Runs -/

theorem hasPair_cons_of_ne (hc : c ≠ '_') (cs : List Char) : hasPair (c :: cs) = hasPair cs :=
  hasPair.eq_2 c cs fun _ h _ => hc h

theorem hasPair_underscore_cons (hc : c ≠ '_') (cs : List Char) :
    hasPair ('_' :: c :: cs) = hasPair (c :: cs) :=
  hasPair.eq_2 '_' (c :: cs) fun _ _ h => hc (List.cons.inj h).1

/-- Two underscores follow each other exactly if they are a part of the text. -/
theorem hasPair_iff : hasPair cs = true ↔ ['_', '_'] <:+: cs := by
  fun_induction hasPair cs with
  | case1 cs => simpa using ⟨[], cs, rfl⟩
  | case2 c cs hne ih =>
    rw [ih, List.infix_cons_iff, or_iff_right]
    rintro ⟨rest, hrest⟩
    obtain ⟨rfl, rfl⟩ := List.cons.inj hrest
    exact hne rest rfl rfl
  | case3 => simp

theorem hasPair_collapse (cs : List Char) : hasPair (collapse cs) = false := by
  fun_induction collapse cs with
  | case1 cs _ ih => exact ih
  | case2 cs h => simpa using h

theorem collapse_eq_self (h : hasPair cs = false) : collapse cs = cs := by
  rw [collapse, h, if_neg Bool.false_ne_true]

/-! ### Ends -/

theorem trimUnderscores_eq_rdropWhile (cs : List Char) :
    trimUnderscores cs = (cs.dropWhile isUnderscore).rdropWhile isUnderscore := rfl

theorem isInfix_trimUnderscores (cs : List Char) : trimUnderscores cs <:+: cs :=
  (List.rdropWhile_prefix _ _).isInfix.trans (List.dropWhile_suffix _).isInfix

theorem hasPair_trimUnderscores (h : hasPair cs = false) :
    hasPair (trimUnderscores cs) = false := by
  rw [← Bool.not_eq_true, hasPair_iff] at h ⊢
  exact fun hpair => h (hpair.trans (isInfix_trimUnderscores cs))

theorem head?_trimUnderscores (cs : List Char) : (trimUnderscores cs).head? ≠ some '_' := by
  intro h
  obtain ⟨rest, hrest⟩ := List.rdropWhile_prefix isUnderscore (cs.dropWhile isUnderscore)
  have hfront := List.head?_dropWhile_not isUnderscore cs
  rw [← hrest, List.head?_append, ← trimUnderscores_eq_rdropWhile, h] at hfront
  cases hfront

theorem getLast?_trimUnderscores (cs : List Char) : (trimUnderscores cs).getLast? ≠ some '_' := by
  rw [trimUnderscores_eq_rdropWhile]
  intro h
  obtain ⟨front, hfront⟩ := List.getLast?_eq_some_iff.1 h
  have hlast := List.rdropWhile_last_not isUnderscore (cs.dropWhile isUnderscore)
  simp only [hfront, List.getLast_concat] at hlast
  exact hlast (by simp) rfl

theorem trimUnderscores_eq_self (hhead : cs.head? ≠ some '_') (hlast : cs.getLast? ≠ some '_') :
    trimUnderscores cs = cs := by
  have hfront : cs.dropWhile isUnderscore = cs := by
    cases cs with
    | nil => rfl
    | cons c cs =>
      refine List.dropWhile_cons_of_neg ?_
      simpa [isUnderscore] using hhead
  rw [trimUnderscores_eq_rdropWhile, hfront, List.rdropWhile_eq_self_iff]
  intro hne hc
  refine hlast ?_
  rw [List.getLast?_eq_some_getLast hne]
  simpa [isUnderscore] using hc

end SkeletonName

end Schemata
