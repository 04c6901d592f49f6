import Mathlib.Data.List.DropRight
import Schemata.Proofs.Text.LetterCase
import Schemata.Text.Blank

/-!
# Padding and letter case

No letter is a blank, so the blanks at the ends of a text are the same in either letter case.
Trimmed and in small letters, a text is the same whatever its case and its padding are.

* `Respells` — a text in another case, between blanks;
* `core` — a text without its padding, in small letters (`core_eq_of_respells`);
* `lower_eq_core_iff` — which texts are their own core but for the case.
-/

namespace Schemata

/-! ### Blanks at the ends -/

variable {c : Char} {cs front back : List Char}

theorem isBlank_of_bounds (h : 0x41 ≤ c.toNat) (h' : c.toNat ≤ 0x7A) : isBlank c = false := by
  rw [Bool.eq_false_iff]
  simp only [isBlank, ne_eq, Bool.or_eq_true, Bool.and_eq_true, decide_eq_true_eq, beq_iff_eq]
  omega

theorem isBlank_toLower (c : Char) : isBlank c.toLower = isBlank c := by
  by_cases hc : c.isUpper = true
  · have hbounds := Ascii.isUpper_iff.1 hc
    have hlower : c.toLower.toNat = c.toNat + 0x20 := by rw [Ascii.toNat_toLower, if_pos hc]
    rw [isBlank_of_bounds (by omega) (by omega), isBlank_of_bounds hbounds.1 (by omega)]
  · rw [Ascii.toLower_eq_self (Bool.eq_false_iff.2 hc)]

theorem trimChars_eq_rdropWhile (cs : List Char) :
    trimChars cs = (cs.dropWhile isBlank).rdropWhile isBlank := rfl

/-- Blanks at the ends make no difference. -/
theorem trimChars_padded (hfront : ∀ c ∈ front, isBlank c = true)
    (hback : ∀ c ∈ back, isBlank c = true) : trimChars (front ++ cs ++ back) = trimChars cs := by
  have hnone : back.dropWhile isBlank = [] := List.dropWhile_eq_nil_iff.2 hback
  have hend : ∀ ds : List Char, (ds ++ back).rdropWhile isBlank = ds.rdropWhile isBlank := by
    intro ds
    rw [List.rdropWhile, List.reverse_append,
      dropWhile_isBlank_append fun c hc => hback c (List.mem_reverse.1 hc), List.rdropWhile]
  rw [trimChars_eq_rdropWhile, List.append_assoc, dropWhile_isBlank_append hfront,
    List.dropWhile_append, hnone]
  split
  next h => rw [trimChars_eq_rdropWhile, List.isEmpty_iff.1 h]
  next => exact hend _

theorem trimChars_map_toLower (cs : List Char) :
    trimChars (cs.map Char.toLower) = (trimChars cs).map Char.toLower := by
  have hblank : isBlank ∘ Char.toLower = isBlank := funext isBlank_toLower
  simp only [trimChars, List.dropWhile_map, ← List.map_reverse, hblank]

theorem trimChars_sublist (cs : List Char) : (trimChars cs).Sublist cs :=
  (List.rdropWhile_prefix _ _).sublist.trans (List.dropWhile_sublist _)

/-! ### Texts up to case and padding -/

/-- The second text is the first one with ASCII letters in either case, between blanks. -/
def Respells (s t : String) : Prop :=
  ∃ front middle back, t = front ++ middle ++ back ∧ Ascii.sameLetters s middle = true ∧
    (∀ c ∈ front.toList, isBlank c = true) ∧ ∀ c ∈ back.toList, isBlank c = true

/-- The characters of a text between the blanks at its ends, in small letters. -/
def core (s : String) : List Char :=
  Ascii.lower (trim s)

theorem core_eq_trimChars_lower (s : String) : core s = trimChars (Ascii.lower s) := by
  rw [core, trim, Ascii.lower, Ascii.lower, String.toList_ofList, trimChars_map_toLower]

theorem core_eq_of_respells {s t : String} (h : Respells s t) : core t = core s := by
  obtain ⟨front, middle, back, rfl, hsame, hfront, hback⟩ := h
  have hlower (pad : String) (hpad : ∀ c ∈ pad.toList, isBlank c = true) :
      ∀ c ∈ Ascii.lower pad, isBlank c = true := by
    intro c hc
    obtain ⟨d, hd, rfl⟩ := List.mem_map.1 hc
    rw [isBlank_toLower, hpad d hd]
  have hparts : Ascii.lower (front ++ middle ++ back) =
      Ascii.lower front ++ Ascii.lower middle ++ Ascii.lower back := by
    simp [Ascii.lower]
  rw [core_eq_trimChars_lower, core_eq_trimChars_lower, hparts, Ascii.sameLetters_iff.1 hsame,
    trimChars_padded (hlower front hfront) (hlower back hback)]

/-- A text is its own core but for the case exactly if it is not padded. -/
theorem lower_eq_core_iff {s : String} : Ascii.lower s = core s ↔ trim s = s := by
  refine ⟨fun h => ?_, fun h => by rw [core, h]⟩
  have hlength : (trimChars s.toList).length = s.toList.length := by
    simpa [core, trim, Ascii.lower, eq_comm] using congrArg List.length h
  rw [trim, (trimChars_sublist _).eq_of_length hlength, String.ofList_toList]

end Schemata
