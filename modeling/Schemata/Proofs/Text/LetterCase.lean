import Mathlib.Data.String.Basic
import Schemata.Text.Alphanumeric
import Schemata.Text.Ascii
import Schemata.Text.LetterCase

/-!
# Letter case in ASCII and beyond

Capital letters of ASCII are made small, and small ones capital, by a fixed distance.  This leaves
letters letters, digits digits, and the number of bytes of a text.  In Unicode a character of
another script may have an ASCII letter for its lower-case form; there are two of them, and both are
letters themselves.

* `Ascii.toNat_toLower`, `Ascii.toNat_toUpper` — the two forms in ASCII, with what they keep;
* `Ascii.utf8ByteSize_congr` — the bytes of texts that differ in case only;
* `eq_of_mem_lowercase` — where ASCII characters in lower case come from, with
  `isAlphanumeric_of_mem_lowercase` and `isUpper_of_mem_lowercase`.
-/

namespace Schemata

/-! ### ASCII -/

namespace Ascii

variable {c : Char}

theorem isUpper_iff : c.isUpper = true ↔ 0x41 ≤ c.toNat ∧ c.toNat ≤ 0x5A :=
  decide_eq_true_iff.trans (and_congr UInt32.le_iff_toNat_le UInt32.le_iff_toNat_le)

theorem isLower_iff : c.isLower = true ↔ 0x61 ≤ c.toNat ∧ c.toNat ≤ 0x7A :=
  Bool.and_eq_true_iff.trans (and_congr (decide_eq_true_iff.trans UInt32.le_iff_toNat_le)
    (decide_eq_true_iff.trans UInt32.le_iff_toNat_le))

theorem isDigit_iff : c.isDigit = true ↔ 0x30 ≤ c.toNat ∧ c.toNat ≤ 0x39 :=
  Char.isDigit_iff_toNat

theorem isAlpha_iff : c.isAlpha = true ↔
    0x41 ≤ c.toNat ∧ c.toNat ≤ 0x5A ∨ 0x61 ≤ c.toNat ∧ c.toNat ≤ 0x7A :=
  Bool.or_eq_true_iff.trans (or_congr isUpper_iff isLower_iff)

theorem toLower_eq_self (hc : c.isUpper = false) : c.toLower = c :=
  dif_neg (of_decide_eq_false hc)

/-- A capital letter moves up by 32, and everything else stays. -/
theorem toNat_toLower (c : Char) :
    c.toLower.toNat = if c.isUpper then c.toNat + 0x20 else c.toNat := by
  cases hc : c.isUpper with
  | false => rw [toLower_eq_self hc, if_neg Bool.false_ne_true]
  | true =>
    have hmoved : c.toLower = ⟨c.val + ('a'.val - 'A'.val), _⟩ := dif_pos (of_decide_eq_true hc)
    have hshift : ('a'.val - 'A'.val).toNat = 0x20 := rfl
    have hbound := (isUpper_iff.1 hc).2
    rw [if_pos rfl, hmoved, ← Char.toNat_val, UInt32.toNat_add, hshift, Char.toNat_val]
    omega

/-- A small letter moves down by 32, and everything else stays. -/
theorem toNat_toUpper (c : Char) :
    c.toUpper.toNat = if c.isLower then c.toNat - 0x20 else c.toNat := by
  have hsmall : c.isLower = true ↔ 'a'.val ≤ c.val ∧ c.val ≤ 'z'.val :=
    Bool.and_eq_true_iff.trans (and_congr decide_eq_true_iff decide_eq_true_iff)
  by_cases hc : c.isLower = true
  · have hmoved : c.toUpper = ⟨c.val + ('A'.val - 'a'.val), _⟩ := dif_pos (hsmall.1 hc)
    -- the distance is added as its complement
    have hshift : ('A'.val - 'a'.val).toNat = 2 ^ 32 - 0x20 := rfl
    have hbounds := isLower_iff.1 hc
    rw [if_pos hc, hmoved, ← Char.toNat_val, UInt32.toNat_add, hshift, Char.toNat_val]
    omega
  · have hself : c.toUpper = c := dif_neg (mt hsmall.2 hc)
    rw [if_neg hc, hself]

theorem isDigit_toLower (c : Char) : c.toLower.isDigit = c.isDigit := by
  rw [Bool.eq_iff_iff]
  simp only [isDigit_iff, toNat_toLower, isUpper_iff]
  split <;> omega

theorem isAlpha_toLower (c : Char) : c.toLower.isAlpha = c.isAlpha := by
  rw [Bool.eq_iff_iff]
  simp only [isAlpha_iff, toNat_toLower, isUpper_iff]
  split <;> omega

theorem isAlphanum_toLower (c : Char) : c.toLower.isAlphanum = c.isAlphanum := by
  rw [Char.isAlphanum, Char.isAlphanum, isAlpha_toLower, isDigit_toLower]

theorem isUpper_toLower (c : Char) : c.toLower.isUpper = false := by
  simp only [Bool.eq_false_iff, ne_eq, toNat_toLower, isUpper_iff]
  split <;> omega

theorem isAlphanum_toUpper (c : Char) : c.toUpper.isAlphanum = c.isAlphanum := by
  rw [Bool.eq_iff_iff]
  simp only [Char.isAlphanum, Bool.or_eq_true, isAlpha_iff, isDigit_iff, toNat_toUpper,
    isLower_iff]
  split <;> omega

theorem isUpper_toUpper (hc : c.isLower = true) : c.toUpper.isUpper = true := by
  rw [isLower_iff] at hc
  rw [isUpper_iff, toNat_toUpper, if_pos (isLower_iff.2 hc)]
  omega

/-- Making a letter a capital one is undone in lower case. -/
theorem toLower_toUpper (c : Char) : c.toUpper.toLower = c.toLower := by
  simp only [← Char.toNat_inj, toNat_toLower, toNat_toUpper, isUpper_iff, isLower_iff]
  repeat' split
  all_goals omega

/-- Only letters are made from letters. -/
theorem toLower_eq_iff {d : Char} (hd : d.isAlpha = false) : c.toLower = d ↔ c = d := by
  by_cases hc : c.isUpper = true
  · have halpha : c.isAlpha = true := isAlpha_iff.2 (.inl (isUpper_iff.1 hc))
    refine iff_of_false (fun h => ?_) (fun h => ?_)
    · rw [← h, isAlpha_toLower, halpha] at hd
      cases hd
    · rw [← h, halpha] at hd
      cases hd
  · rw [toLower_eq_self (Bool.eq_false_iff.2 hc)]

theorem utf8Size_toLower (c : Char) : c.toLower.utf8Size = c.utf8Size := by
  by_cases hc : c.isUpper = true
  · have hsize {d : Char} (hd : d.toNat ≤ 0x7F) : d.utf8Size = 1 :=
      Char.utf8Size_eq_one_iff.2 (UInt32.le_iff_toNat_le.2 hd)
    have hlower := toNat_toLower c
    rw [hc, if_pos rfl] at hlower
    have hbound := (isUpper_iff.1 hc).2
    rw [hsize (by omega), hsize (by omega)]
  · rw [toLower_eq_self (Bool.eq_false_iff.2 hc)]

theorem utf8Len_map_toLower (cs : List Char) :
    String.utf8Len (cs.map Char.toLower) = String.utf8Len cs := by
  induction cs with
  | nil => rfl
  | cons c cs ih => rw [List.map_cons, String.utf8Len_cons, String.utf8Len_cons, ih,
      utf8Size_toLower]

/-- Texts that differ in the case of ASCII letters only have the same number of bytes. -/
theorem utf8ByteSize_congr {s t : String} (h : lower s = lower t) :
    s.utf8ByteSize = t.utf8ByteSize := by
  have hlen (u : String) : u.utf8ByteSize = String.utf8Len (lower u) := by
    rw [lower, utf8Len_map_toLower, ← String.utf8ByteSize_ofList, String.ofList_toList]
  rw [hlen, hlen, h]

end Ascii

/-! ### Unicode -/

variable {c d : Char}

theorem toNat_lt_of_isAlphanum (h : c.isAlphanum = true) : c.toNat < 0x80 := by
  rw [Char.isAlphanum, Bool.or_eq_true, Ascii.isAlpha_iff, Ascii.isDigit_iff] at h
  omega

/-- The lower-case forms of a run of capital letters are beyond ASCII, save for the Kelvin sign. -/
theorem LetterCase.apply_of_mem_lowerings {l : Lowering} (hl : l ∈ lowerings) {n : Nat}
    (hn : l.capitals.contains n = true) :
    n = 0x212A ∧ l.apply n = 0x6B ∨ 0x80 ≤ l.apply n ∧ (l.apply n).isValidChar := by
  have hall : ∀ l ∈ lowerings,
      l.capitals.first = 0x212A ∧ l.capitals.last = 0x212A ∧ l.target = 0x6B ∨
      0x80 ≤ l.target ∧ (l.target + (l.capitals.last - l.capitals.first) < 0xD800 ∨
        0xE000 ≤ l.target ∧ l.target + (l.capitals.last - l.capitals.first) < 0x110000) := by
    decide +kernel
  have hbounds := CodeRun.le_of_contains hn
  unfold Lowering.apply
  rcases hall l hl with ⟨hfirst, hlast, htarget⟩ | ⟨htarget, hlow | hhigh⟩
  · left
    omega
  · exact .inr ⟨by omega, .inl (by omega)⟩
  · exact .inr ⟨by omega, .inr ⟨by omega, by omega⟩⟩

/-- The ASCII characters in lower case come from ASCII, from the capital I with dot above and from
the Kelvin sign. -/
theorem eq_of_mem_lowercase (h : d ∈ lowercase c) (hd : d.toNat < 0x80) :
    c.toNat < 0x80 ∧ d = c.toLower ∨ c = '\u0130' ∧ d = 'i' ∨ c = '\u212A' ∧ d = 'k' := by
  unfold lowercase at h
  split at h
  next hc => exact .inl ⟨hc, List.mem_singleton.1 h⟩
  next hc =>
    split at h
    next hdot =>
      have hc : c = '\u0130' := Char.toNat_inj.1 hdot
      rcases List.mem_cons.1 h with rfl | h
      · exact .inr (.inl ⟨hc, rfl⟩)
      · obtain rfl := List.mem_singleton.1 h
        exact absurd hd (by decide)
    next =>
      split at h
      next l hl =>
        obtain rfl := List.mem_singleton.1 h
        have hrun := List.find?_some hl
        rcases LetterCase.apply_of_mem_lowerings (List.mem_of_find?_eq_some hl) hrun with
          ⟨hkelvin, hk⟩ | ⟨hlarge, hvalid⟩
        · exact .inr (.inr ⟨Char.toNat_inj.1 hkelvin, by rw [hk]⟩)
        · rw [Char.ofNat, dif_pos hvalid] at hd
          exact absurd hd (Nat.not_lt.2 hlarge)
      next =>
        obtain rfl := List.mem_singleton.1 h
        exact absurd hd hc

/-- An ASCII letter or digit comes from a letter or number. -/
theorem isAlphanumeric_of_mem_lowercase (h : d ∈ lowercase c) (hd : d.isAlphanum = true) :
    isAlphanumeric c = true := by
  rcases eq_of_mem_lowercase h (toNat_lt_of_isAlphanum hd) with ⟨hc, rfl⟩ | ⟨rfl, -⟩ | ⟨rfl, -⟩
  · rw [isAlphanumeric_of_toNat_lt hc, ← Ascii.isAlphanum_toLower, hd]
  · decide +kernel
  · decide +kernel

/-- No capital letter of ASCII is in lower case. -/
theorem isUpper_of_mem_lowercase (h : d ∈ lowercase c) : d.isUpper = false := by
  by_cases hd : d.toNat < 0x80
  · rcases eq_of_mem_lowercase h hd with ⟨-, rfl⟩ | ⟨-, rfl⟩ | ⟨-, rfl⟩
    · exact Ascii.isUpper_toLower c
    · rfl
    · rfl
  · rw [Bool.eq_false_iff, ne_eq, Ascii.isUpper_iff]
    omega

end Schemata
