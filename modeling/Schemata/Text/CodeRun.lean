/-!
# Sets of code points

A property of characters is a list of *runs*: equally spaced code points between a first and
a last one.  A step of one gives an interval; a step of two gives the alphabets in which
capital and small letters take turns.

* `CodeRun.contains` — membership of a code point in one run;
* `CodeRun.holds` — membership of a character in a list of runs.
-/

namespace Schemata

/-- The code points `first`, `first + step`, … up to `last`. -/
structure CodeRun where
  /-- The smallest code point. -/
  first : Nat
  /-- The largest code point. -/
  last : Nat
  /-- The distance between neighbours. -/
  step : Nat
deriving DecidableEq, Repr

namespace CodeRun

/-- Whether the run has the code point `n`. -/
def contains (r : CodeRun) (n : Nat) : Bool :=
  decide (r.first ≤ n) && decide (n ≤ r.last) && (n - r.first) % r.step == 0

/-- Whether one of the runs has the character. -/
def holds (runs : List CodeRun) (c : Char) : Bool :=
  runs.any (·.contains c.toNat)

theorem le_of_contains {r : CodeRun} {n : Nat} (h : r.contains n = true) :
    r.first ≤ n ∧ n ≤ r.last := by
  simp only [contains, Bool.and_eq_true, decide_eq_true_eq] at h
  exact h.1

end CodeRun

end Schemata
