/-!
# ASCII letter case

Driver names and reserved words are compared without regard to the case of the letters `A` to
`Z`; every other character, accented letters included, stands for itself alone.

* `Ascii.lower` — a text with its ASCII capital letters made small;
* `Ascii.sameLetters` — equality of texts up to ASCII case (`sameLetters_iff`).
-/

namespace Schemata

namespace Ascii

/-- The characters of a text with the ASCII capital letters made small. -/
def lower (s : String) : List Char :=
  s.toList.map Char.toLower

/-- Whether two texts differ at most in the case of ASCII letters. -/
def sameLetters (a b : String) : Bool :=
  lower a == lower b

theorem sameLetters_iff {a b : String} : sameLetters a b = true ↔ lower a = lower b := by
  simp [sameLetters]

end Ascii

end Schemata
