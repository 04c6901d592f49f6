/-!
# Decimal numerals

Numbers are written in base ten without leading zeros; a negative integer has a minus sign
before the numeral of its absolute value.

* `Decimal.digits` — the digits of a natural number, most significant first;
* `Decimal.ofNat`, `Decimal.ofInt` — the numerals as text;
* `Decimal.value` — the number that digits denote, so `value_digits` reads a numeral back.
-/

namespace Schemata

namespace Decimal

/-- The digit with the value `d`, for `d < 10`. -/
def digit (d : Nat) : Char :=
  Char.ofNat (0x30 + d)

/-- The digits of `n`, most significant first. -/
def digits (n : Nat) : List Char :=
  if n < 10 then [digit n] else digits (n / 10) ++ [digit (n % 10)]
termination_by n

/-- The numeral of a natural number. -/
def ofNat (n : Nat) : String :=
  String.ofList (digits n)

/-- The numeral of an integer. -/
def ofInt : Int → String
  | .ofNat n => ofNat n
  | .negSucc n => "-" ++ ofNat (n + 1)

/-- The number denoted by a list of digits. -/
def value (ds : List Char) : Nat :=
  ds.foldl (fun n c => 10 * n + (c.toNat - 0x30)) 0

theorem value_append_singleton (ds : List Char) (c : Char) :
    value (ds ++ [c]) = 10 * value ds + (c.toNat - 0x30) := by
  simp [value]

theorem toNat_digit {d : Nat} (h : d < 10) : (digit d).toNat = 0x30 + d := by
  have all : ∀ e ∈ List.range 10, (digit e).toNat = 0x30 + e := by decide
  exact all d (List.mem_range.2 h)

theorem isDigit_digit {d : Nat} (h : d < 10) : (digit d).isDigit = true := by
  have all : ∀ e ∈ List.range 10, (digit e).isDigit = true := by decide
  exact all d (List.mem_range.2 h)

/-- Reading a numeral gives the number back. -/
@[simp] theorem value_digits (n : Nat) : value (digits n) = n := by
  fun_induction digits n with
  | case1 n h => simp [value, toNat_digit h]
  | case2 n h ih =>
    rw [value_append_singleton, ih, toNat_digit (Nat.mod_lt n (by decide))]
    omega

theorem isDigit_of_mem_digits {n : Nat} {c : Char} (h : c ∈ digits n) : c.isDigit = true := by
  fun_induction digits n with
  | case1 n hn =>
    obtain rfl := List.mem_singleton.1 h
    exact isDigit_digit hn
  | case2 n hn ih =>
    rcases List.mem_append.1 h with h | h
    · exact ih h
    · obtain rfl := List.mem_singleton.1 h
      exact isDigit_digit (Nat.mod_lt n (by decide))

end Decimal

end Schemata
