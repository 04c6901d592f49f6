/-!
# Blank space

The characters with the property `White_Space`, and texts without them at either end.

* `isBlank` — the property, for all of Unicode;
* `trim` — a text without the blanks at its two ends.
-/

namespace Schemata

/-- Whether the character is white space. -/
def isBlank (c : Char) : Bool :=
  let n := c.toNat
  (decide (0x9 ≤ n) && decide (n ≤ 0xD)) || n == 0x20 || n == 0x85 || n == 0xA0 || n == 0x1680
    || (decide (0x2000 ≤ n) && decide (n ≤ 0x200A)) || n == 0x2028 || n == 0x2029 || n == 0x202F
    || n == 0x205F || n == 0x3000

/-- The characters without the blanks before the first and after the last other one. -/
def trimChars (cs : List Char) : List Char :=
  ((cs.dropWhile isBlank).reverse.dropWhile isBlank).reverse

/-- The text without the blanks at its ends. -/
def trim (s : String) : String :=
  String.ofList (trimChars s.toList)

theorem dropWhile_isBlank_append {pad cs : List Char} (h : ∀ c ∈ pad, isBlank c = true) :
    (pad ++ cs).dropWhile isBlank = cs.dropWhile isBlank := by
  induction pad with
  | nil => rfl
  | cons c pad ih =>
    simp only [List.cons_append, List.dropWhile_cons, h c (by simp), ↓reduceIte]
    exact ih fun d hd => h d (by simp [hd])

end Schemata
