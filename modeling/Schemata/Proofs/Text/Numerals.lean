import Mathlib.Data.List.Basic
import Schemata.Text.Decimal

/-!
# The order of numerals

The digits of a numeral come highest first, so numerals of one length are in the order of their
numbers, whatever follows them.  Numerals of different lengths need not be.

* `Decimal.append_lt_append_iff` — texts whose first parts have one length;
* `Decimal.digits_lt_digits_iff` — numerals of one length.
-/

namespace Schemata

namespace Decimal

variable {d e m n : Nat} {s t u v : List Char}

/-- First parts of one length decide, unless they are the same. -/
theorem append_lt_append_iff (h : u.length = v.length) :
    u ++ s < v ++ t ↔ u < v ∨ u = v ∧ s < t := by
  induction u generalizing v with
  | nil =>
    obtain rfl : v = [] := List.length_eq_zero_iff.1 h.symm
    simp
  | cons c u ih =>
    cases v with
    | nil => cases h
    | cons d v =>
      have hrest : u.length = v.length := Nat.succ.inj h
      simp only [List.cons_append, List.cons_lt_cons_iff, ih hrest, List.cons.injEq]
      tauto

theorem singleton_digit_lt_iff (hd : d < 10) (he : e < 10) : [digit d] < [digit e] ↔ d < e := by
  have hlt : digit d < digit e ↔ (digit d).toNat < (digit e).toNat := Iff.rfl
  rw [List.cons_lt_cons_iff, or_iff_left fun h => List.not_lt_nil _ h.2, hlt, toNat_digit hd,
    toNat_digit he]
  omega

theorem digits_of_lt (h : n < 10) : digits n = [digit n] := by
  rw [digits, if_pos h]

theorem digits_of_le (h : 10 ≤ n) : digits n = digits (n / 10) ++ [digit (n % 10)] := by
  rw [digits, if_neg (Nat.not_lt.2 h)]

theorem length_digits_pos (n : Nat) : 0 < (digits n).length := by
  fun_cases digits n <;> simp

theorem digits_inj : digits m = digits n ↔ m = n :=
  ⟨fun h => by rw [← value_digits m, h, value_digits], congrArg digits⟩

/-- Numerals of one length are in the order of their numbers. -/
theorem digits_lt_digits_iff (h : (digits m).length = (digits n).length) :
    digits m < digits n ↔ m < n := by
  fun_induction digits m generalizing n with
  | case1 m hm =>
    rcases Nat.lt_or_ge n 10 with hn | hn
    · rw [digits_of_lt hn, singleton_digit_lt_iff hm hn]
    · have hpos := length_digits_pos (n / 10)
      rw [digits_of_le hn, List.length_append, List.length_singleton, List.length_singleton] at h
      omega
  | case2 m hm ih =>
    have hpos := length_digits_pos (m / 10)
    rw [List.length_append, List.length_singleton] at h
    rcases Nat.lt_or_ge n 10 with hn | hn
    · rw [digits_of_lt hn, List.length_singleton] at h
      omega
    · -- the numerals of the tens decide, and the last digits if these are the same
      rw [digits_of_le hn, List.length_append, List.length_singleton] at h
      have htens : (digits (m / 10)).length = (digits (n / 10)).length := Nat.succ.inj h
      have hlast : [digit (m % 10)] < [digit (n % 10)] ↔ m % 10 < n % 10 :=
        singleton_digit_lt_iff (Nat.mod_lt m (by decide)) (Nat.mod_lt n (by decide))
      rw [digits_of_le hn, append_lt_append_iff htens, ih htens, digits_inj, hlast]
      omega

-- a longer numeral may come first
example : digits 10 < digits 9 := by decide +kernel

end Decimal

end Schemata
