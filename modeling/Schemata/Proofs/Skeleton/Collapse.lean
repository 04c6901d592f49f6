import Mathlib.Data.Nat.Log
import Schemata.Proofs.Skeleton.Underscores

/-!
# Runs of underscores

Merging pairs halves a run of underscores, rounding up, so it has to be done once more for every
doubling of the longest run.  No pass makes a difference to a reader that leaves out an underscore
after an underscore, and this reader changes nothing where no two of them follow each other; so the
passes together do what the reader does in one.

* `SkeletonName.EndsAfter` — after how many passes there is no pair;
* `SkeletonName.longestRun`, `SkeletonName.endsAfter_clog` — this depends on the longest run;
* `SkeletonName.squeeze`, `SkeletonName.collapse_eq_squeeze` — all passes as one;
* `SkeletonName.squeeze_run` — what is made of one run;
* `SkeletonName.collapse_shortens_runs` — all of this, for every text.
-/

namespace Schemata

namespace SkeletonName

variable {c : Char} {cs front back : List Char} {n : Nat} {after : Bool}

/-! ### How many passes it takes -/

/-- Pairs are merged `n` times until there is none. -/
structure EndsAfter (n : Nat) (cs : List Char) : Prop where
  /-- Before each pass there is a pair. -/
  pair : ∀ k < n, hasPair (mergePairs^[k] cs) = true
  /-- After the last one there is none. -/
  done : hasPair (mergePairs^[n] cs) = false

theorem EndsAfter.zero (h : hasPair cs = false) : EndsAfter 0 cs where
  pair k hk := absurd hk (Nat.not_lt_zero k)
  done := h

theorem EndsAfter.succ (hpair : hasPair cs = true) (h : EndsAfter n (mergePairs cs)) :
    EndsAfter (n + 1) cs where
  pair k hk := by
    cases k with
    | zero => exact hpair
    | succ k => exact h.pair k (Nat.lt_of_succ_lt_succ hk)
  done := h.done

/-- The length of the longest run of underscores, when `n` of them come before the text. -/
def longestFrom (n : Nat) : List Char → Nat
  | [] => n
  | c :: cs => if c = '_' then longestFrom (n + 1) cs else max n (longestFrom 0 cs)

/-- The length of the longest run of underscores. -/
def longestRun (cs : List Char) : Nat :=
  longestFrom 0 cs

theorem longestFrom_underscore_cons (n : Nat) (cs : List Char) :
    longestFrom n ('_' :: cs) = longestFrom (n + 1) cs := by
  rw [longestFrom, if_pos rfl]

theorem longestFrom_cons_of_ne (hc : c ≠ '_') (n : Nat) (cs : List Char) :
    longestFrom n (c :: cs) = max n (longestFrom 0 cs) := by
  rw [longestFrom, if_neg hc]

/-- Underscores that come before are a run of their own if the text starts otherwise. -/
theorem longestFrom_of_head (h : cs.head? ≠ some '_') (n : Nat) :
    longestFrom n cs = max n (longestFrom 0 cs) := by
  cases cs with
  | nil => simp [longestFrom]
  | cons c cs =>
    have hc : c ≠ '_' := by simpa using h
    rw [longestFrom_cons_of_ne hc, longestFrom_cons_of_ne hc, Nat.zero_max]

theorem le_longestFrom (n : Nat) (cs : List Char) : n ≤ longestFrom n cs := by
  induction cs generalizing n with
  | nil => rfl
  | cons c cs ih =>
    by_cases hc : c = '_'
    · rw [hc, longestFrom_underscore_cons]
      exact Nat.le_of_succ_le (ih (n + 1))
    · rw [longestFrom_cons_of_ne hc]
      exact Nat.le_max_left _ _

/-- The underscore in front of such a text is alone. -/
theorem head?_ne_of_alone (h : ∀ rest, '_' = '_' → cs = '_' :: rest → False) :
    cs.head? ≠ some '_' := by
  intro hhead
  obtain ⟨rest, hrest⟩ := List.head?_eq_some_iff.1 hhead
  exact h rest rfl hrest

theorem head?_mergePairs (cs : List Char) : (mergePairs cs).head? = cs.head? := by
  fun_cases mergePairs cs <;> rfl

/-- There is a pair exactly if a run is longer than one. -/
theorem hasPair_iff_longestRun : hasPair cs = true ↔ 2 ≤ longestRun cs := by
  fun_induction hasPair cs with
  | case1 cs =>
    have hle := le_longestFrom 2 cs
    simpa [longestRun, longestFrom_underscore_cons] using hle
  | case2 c cs hne ih =>
    rw [ih, longestRun, longestRun]
    by_cases hc : c = '_'
    · subst hc
      rw [longestFrom_underscore_cons, longestFrom_of_head (head?_ne_of_alone hne) 1]
      omega
    · rw [longestFrom_cons_of_ne hc, Nat.zero_max]
  | case3 => simp [longestRun, longestFrom]

theorem longestFrom_mergePairs (n : Nat) (cs : List Char) :
    longestFrom n (mergePairs cs) = (longestFrom (2 * n) cs + 1) / 2 := by
  fun_induction mergePairs cs generalizing n with
  | case1 cs ih => simp only [longestFrom_underscore_cons, ih, Nat.mul_succ]
  | case2 c cs hne ih =>
    by_cases hc : c = '_'
    · subst hc
      have hhead : cs.head? ≠ some '_' := head?_ne_of_alone hne
      have hhead' : (mergePairs cs).head? ≠ some '_' := by rwa [head?_mergePairs]
      have hrest := ih 0
      rw [longestFrom_underscore_cons, longestFrom_underscore_cons, longestFrom_of_head hhead',
        longestFrom_of_head hhead, hrest, Nat.mul_zero]
      omega
    · have hrest := ih 0
      rw [longestFrom_cons_of_ne hc, longestFrom_cons_of_ne hc, hrest, Nat.mul_zero]
      omega
  | case3 => simp only [longestFrom]; omega

/-- A pass halves the longest run, rounding up. -/
theorem longestRun_mergePairs (cs : List Char) :
    longestRun (mergePairs cs) = (longestRun cs + 1) / 2 :=
  longestFrom_mergePairs 0 cs

/-- Runs are collapsed after one pass for every doubling of the longest one. -/
theorem endsAfter_clog (cs : List Char) : EndsAfter (Nat.clog 2 (longestRun cs)) cs ∧
    collapse cs = mergePairs^[Nat.clog 2 (longestRun cs)] cs := by
  fun_induction collapse cs with
  | case1 cs h ih =>
    have hclog : Nat.clog 2 (longestRun cs) = Nat.clog 2 (longestRun (mergePairs cs)) + 1 := by
      rw [longestRun_mergePairs]
      exact Nat.clog_of_two_le (by decide) (hasPair_iff_longestRun.1 h)
    rw [hclog]
    exact ⟨ih.1.succ h, ih.2⟩
  | case2 cs h =>
    have hshort : longestRun cs ≤ 1 := by
      rw [hasPair_iff_longestRun] at h
      omega
    rw [Nat.clog_of_right_le_one hshort]
    exact ⟨.zero (by simpa using h), rfl⟩

/-! ### All passes as one -/

/-- The characters without the underscores that follow an underscore, when the text comes after one
or not. -/
def squeezeAfter (after : Bool) : List Char → List Char
  | [] => []
  | c :: cs =>
    if after && isUnderscore c then squeezeAfter true cs
    else c :: squeezeAfter (isUnderscore c) cs

/-- The characters without the underscores that follow an underscore. -/
def squeeze (cs : List Char) : List Char :=
  squeezeAfter false cs

theorem squeezeAfter_mergePairs (after : Bool) (cs : List Char) :
    squeezeAfter after (mergePairs cs) = squeezeAfter after cs := by
  fun_induction mergePairs cs generalizing after with
  | case1 cs ih => cases after <;> simp [squeezeAfter, isUnderscore, ih]
  | case2 c cs _ ih => simp only [squeezeAfter, ih]
  | case3 => rfl

/-- It makes no difference what comes before a text that does not start with an underscore. -/
theorem squeezeAfter_of_head (h : cs.head? ≠ some '_') (after : Bool) :
    squeezeAfter after cs = squeeze cs := by
  cases cs with
  | nil => rfl
  | cons c cs =>
    have hc : isUnderscore c = false := by simpa [isUnderscore] using h
    simp [squeeze, squeezeAfter, hc]

theorem squeeze_eq_self (h : hasPair cs = false) : squeeze cs = cs := by
  fun_induction hasPair cs with
  | case1 => cases h
  | case2 c cs hne ih =>
    have hrest : squeezeAfter (isUnderscore c) cs = squeeze cs := by
      by_cases hc : c = '_'
      · subst hc
        exact squeezeAfter_of_head (head?_ne_of_alone hne) _
      · rw [isUnderscore, beq_false_of_ne hc, squeeze]
    rw [squeeze, squeezeAfter, Bool.false_and, if_neg Bool.false_ne_true, hrest, ih h]
  | case3 => rfl

theorem collapse_eq_squeeze (cs : List Char) : collapse cs = squeeze cs := by
  fun_induction collapse cs with
  | case1 cs _ ih => rw [ih, squeeze, squeezeAfter_mergePairs, squeeze]
  | case2 cs h => rw [squeeze_eq_self (by simpa using h)]

/-! ### What is made of one run -/

theorem squeezeAfter_append (after : Bool) (front cs : List Char) :
    squeezeAfter after (front ++ cs) = squeezeAfter after front ++
      squeezeAfter (front.foldl (fun _ c => isUnderscore c) after) cs := by
  induction front generalizing after with
  | nil => rfl
  | cons c front ih =>
    rw [List.cons_append, squeezeAfter, squeezeAfter, List.foldl_cons, ih, ih]
    split
    next h => rw [(Bool.and_eq_true_iff.1 h).2]
    next => rfl

theorem squeezeAfter_replicate (n : Nat) (cs : List Char) :
    squeezeAfter true (List.replicate n '_' ++ cs) = squeezeAfter true cs := by
  induction n with
  | zero => rfl
  | succ n ih => simp [List.replicate_succ, squeezeAfter, isUnderscore, ih]

/-- A run between other characters becomes one underscore. -/
theorem squeeze_run (hfront : front.getLast? ≠ some '_') (hback : back.head? ≠ some '_') (n : Nat) :
    squeeze (front ++ List.replicate (n + 1) '_' ++ back) =
      squeeze front ++ '_' :: squeeze back := by
  have hbefore : front.foldl (fun _ c => isUnderscore c) false = false := by
    rcases List.eq_nil_or_concat front with rfl | ⟨init, c, rfl⟩
    · rfl
    · simpa [isUnderscore] using hfront
  rw [List.append_assoc, squeeze, squeezeAfter_append, hbefore, List.replicate_succ,
    List.cons_append, squeezeAfter, Bool.false_and, if_neg Bool.false_ne_true]
  congr 2
  exact (squeezeAfter_replicate n back).trans (squeezeAfter_of_head hback true)

/-- **Runs of underscores become single underscores.**  As long as two underscores follow each
other, merging pairs makes the text shorter, and this is done once for every doubling of the longest
run.  What is left is the text without the underscores that follow an underscore: each run, whatever
its length, has become one underscore, all else has stayed in its order, and no two underscores
follow each other. -/
theorem collapse_shortens_runs (cs : List Char) :
    ((hasPair cs = true ↔ ['_', '_'] <:+: cs) ∧
      (hasPair cs = true → (mergePairs cs).length < cs.length)) ∧
    (EndsAfter (Nat.clog 2 (longestRun cs)) cs ∧
      collapse cs = mergePairs^[Nat.clog 2 (longestRun cs)] cs) ∧
    collapse cs = squeeze cs ∧
    (∀ front n back, cs = front ++ List.replicate (n + 1) '_' ++ back →
      front.getLast? ≠ some '_' → back.head? ≠ some '_' →
      collapse cs = collapse front ++ '_' :: collapse back) ∧
    (collapse cs).filter (· ≠ '_') = cs.filter (· ≠ '_') ∧
    ¬ ['_', '_'] <:+: collapse cs := by
  refine ⟨⟨hasPair_iff, length_mergePairs_lt⟩, endsAfter_clog cs, collapse_eq_squeeze cs, ?_,
    filter_collapse (by decide) cs, ?_⟩
  · rintro front n back rfl hfront hback
    simp only [collapse_eq_squeeze, squeeze_run hfront hback]
  · rw [← hasPair_iff, hasPair_collapse]
    exact Bool.false_ne_true

/-- A run of seven is merged to four, two and one. -/
theorem seven_underscores_collapse : hasPair "a_______b__".toList = true ∧
    (mergePairs "a_______b__".toList).length < "a_______b__".toList.length ∧
    collapse "a_______b__".toList = collapse "a".toList ++ '_' :: collapse "b__".toList ∧
    collapse "a_______b__".toList = "a_b_".toList ∧
    EndsAfter 3 "a_______b__".toList := by
  obtain ⟨⟨-, hshorter⟩, ⟨hends, -⟩, hsqueeze, hrun, -⟩ :=
    collapse_shortens_runs "a_______b__".toList
  have hpair : hasPair "a_______b__".toList = true := by decide
  refine ⟨hpair, hshorter hpair, hrun "a".toList 6 "b__".toList rfl (by decide) (by decide),
    hsqueeze, ?_⟩
  have hlongest : longestRun "a_______b__".toList = 7 := by decide
  have hclog : Nat.clog 2 7 = 3 := by decide +kernel
  rwa [hlongest, hclog] at hends

end SkeletonName

end Schemata
