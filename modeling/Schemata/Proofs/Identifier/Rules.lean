import Schemata.Proofs.Identifier
import Schemata.Proofs.Text.LetterCase

/-!
# The rules of identifiers

The rules that an identifier keeps are told one by one, each without the others and without the
functions that check them.  The fault of a text is the first rule that it breaks, and since no rule
depends on the case of ASCII letters, neither does the fault.

* `Identifier.Fault.BrokenBy` — the rules one by one, with `fault?_eq_find?` for the first of them;
* `Identifier.Fault.brokenBy_congr` — no rule depends on the case of ASCII letters;
* `Identifier.validate_tells_first_broken_rule` — validation against all of this.
-/

namespace Schemata

namespace Identifier

variable {c : Char} {s t : String}

/-! ### Rules -/

/-- The letters of ASCII. -/
def IsLetter (c : Char) : Prop :=
  'A' ≤ c ∧ c ≤ 'Z' ∨ 'a' ≤ c ∧ c ≤ 'z'

/-- The digits of ASCII. -/
def IsDigit (c : Char) : Prop :=
  '0' ≤ c ∧ c ≤ '9'

instance : DecidablePred IsLetter :=
  fun c => inferInstanceAs (Decidable ('A' ≤ c ∧ c ≤ 'Z' ∨ 'a' ≤ c ∧ c ≤ 'z'))

instance : DecidablePred IsDigit :=
  fun c => inferInstanceAs (Decidable ('0' ≤ c ∧ c ≤ '9'))

theorem isHead_iff : isHead c = true ↔ IsLetter c ∨ c = '_' := by
  have halpha : c.isAlpha = true ↔ IsLetter c := Ascii.isAlpha_iff
  rw [isHead, Bool.or_eq_true, halpha, beq_iff_eq]

theorem isTail_iff : isTail c = true ↔ IsLetter c ∨ IsDigit c ∨ c = '_' := by
  have hdigit : c.isDigit = true ↔ IsDigit c := by
    simp [Char.isDigit, IsDigit, Char.le_def]
  rw [isTail, Char.isAlphanum, Bool.or_eq_true, Bool.or_eq_true, hdigit, or_right_comm,
    ← Bool.or_eq_true, ← isHead, isHead_iff, or_right_comm, or_assoc]

namespace Fault

/-- The rules in the order in which they are looked at. -/
def all : List Fault :=
  [.empty, .head, .tail, .length, .reserved]

/-- The text breaks the rule, whatever other rules it breaks. -/
def BrokenBy (s : String) : Fault → Prop
  | .empty => s = ""
  | .head => ∃ c ∈ s.toList.head?, ¬ (IsLetter c ∨ c = '_')
  | .tail => ∃ c ∈ s.toList.tail, ¬ (IsLetter c ∨ IsDigit c ∨ c = '_')
  | .length => 63 < s.utf8ByteSize
  | .reserved => ∃ word ∈ reservedWords, Ascii.lower word = Ascii.lower s

instance (s : String) : (f : Fault) → Decidable (f.BrokenBy s)
  | .empty => inferInstanceAs (Decidable (s = ""))
  | .head => Option.decidableExistsMem s.toList.head?
  | .tail => List.decidableBEx _ s.toList.tail
  | .length => inferInstanceAs (Decidable (63 < s.utf8ByteSize))
  | .reserved => inferInstanceAs
      (Decidable (∃ word ∈ reservedWords, Ascii.lower word = Ascii.lower s))

end Fault

theorem isReserved_eq_false_iff :
    isReserved s = false ↔ ∀ word ∈ reservedWords, Ascii.lower word ≠ Ascii.lower s := by
  simp [isReserved, Ascii.sameLetters]

theorem fault?_eq_find? (s : String) :
    fault? s = Fault.all.find? fun f => decide (f.BrokenBy s) := by
  have hempty : Fault.BrokenBy s .empty ↔ s.toList = [] := String.toList_eq_nil_iff.symm
  have hreserved : Fault.BrokenBy s .reserved ↔ isReserved s = true := by
    rw [← Bool.not_eq_false, isReserved_eq_false_iff]
    simp [Fault.BrokenBy]
  unfold fault? Fault.all
  simp only [List.find?_cons, List.find?_nil]
  cases hs : s.toList with
  | nil => simp [hempty, hs]
  | cons c cs =>
    have hhead : Fault.BrokenBy s .head ↔ isHead c = false := by
      rw [← Bool.not_eq_true, isHead_iff]
      simp [Fault.BrokenBy, hs]
    have htail : Fault.BrokenBy s .tail ↔ cs.all isTail = false := by
      rw [List.all_eq_false]
      simp only [isTail_iff, Fault.BrokenBy, hs, List.tail_cons]
    have hlength : Fault.BrokenBy s .length ↔ s.utf8ByteSize > maxLength := Iff.rfl
    simp only [hempty, hhead, htail, hlength, hreserved, hs]
    grind

theorem fault?_eq_some_iff {f : Fault} : fault? s = some f ↔ f.BrokenBy s ∧
    ∃ before after, Fault.all = before ++ f :: after ∧ ∀ g ∈ before, ¬ g.BrokenBy s := by
  simp [fault?_eq_find?, List.find?_eq_some_iff_append]

theorem validate_eq_error_iff {e : TableError} :
    validate s = .error e ↔ ∃ f, e = .invalidIdentifier s f ∧ fault? s = some f := by
  cases h : fault? s <;> simp [validate, h, eq_comm]

/-! ### The case of letters -/

theorem isHead_toLower (c : Char) : isHead c.toLower = isHead c := by
  rw [Bool.eq_iff_iff]
  simp only [isHead, Bool.or_eq_true, beq_iff_eq, Ascii.isAlpha_toLower,
    Ascii.toLower_eq_iff (d := '_') rfl]

theorem isTail_toLower (c : Char) : isTail c.toLower = isTail c := by
  rw [Bool.eq_iff_iff]
  simp only [isTail, Bool.or_eq_true, beq_iff_eq, Ascii.isAlphanum_toLower,
    Ascii.toLower_eq_iff (d := '_') rfl]

namespace Fault

theorem brokenBy_empty_iff : empty.BrokenBy s ↔ Ascii.lower s = [] := by
  rw [Ascii.lower, List.map_eq_nil_iff, String.toList_eq_nil_iff]
  rfl

theorem brokenBy_head_iff : head.BrokenBy s ↔ (Ascii.lower s).head?.all isHead = false := by
  cases hs : s.toList with
  | nil => simp [BrokenBy, Ascii.lower, hs]
  | cons c cs => simp [BrokenBy, Ascii.lower, hs, isHead_toLower, ← isHead_iff]

theorem brokenBy_tail_iff : tail.BrokenBy s ↔ (Ascii.lower s).tail.all isTail = false := by
  have hmap : (Ascii.lower s).tail.all isTail = s.toList.tail.all isTail := by
    rw [Ascii.lower, ← List.map_tail, List.all_map]
    exact congrArg (List.all _) (funext isTail_toLower)
  rw [hmap, List.all_eq_false]
  simp only [BrokenBy, isTail_iff]

/-- No rule depends on the case of ASCII letters. -/
theorem brokenBy_congr (h : Ascii.lower s = Ascii.lower t) (f : Fault) :
    f.BrokenBy s ↔ f.BrokenBy t := by
  cases f with
  | empty => rw [brokenBy_empty_iff, brokenBy_empty_iff, h]
  | head => rw [brokenBy_head_iff, brokenBy_head_iff, h]
  | tail => rw [brokenBy_tail_iff, brokenBy_tail_iff, h]
  | length => rw [BrokenBy, BrokenBy, Ascii.utf8ByteSize_congr h]
  | reserved => rw [BrokenBy, BrokenBy, h]

end Fault

theorem fault?_congr (h : Ascii.lower s = Ascii.lower t) : fault? s = fault? t := by
  simp only [fault?_eq_find?, Fault.brokenBy_congr h]

/-! ### Validation -/

theorem toNat_lt_of_isTail (h : isTail c = true) : c.toNat < 0x80 := by
  rw [isTail, Bool.or_eq_true, beq_iff_eq] at h
  rcases h with h | rfl
  · exact toNat_lt_of_isAlphanum h
  · decide

/-- A character beyond ASCII breaks one of the rules on characters. -/
theorem fault?_of_mem (hc : c ∈ s.toList) (h : 0x80 ≤ c.toNat) :
    fault? s = some .head ∨ fault? s = some .tail := by
  have htail : isTail c = false :=
    Bool.eq_false_iff.2 fun hc => absurd (toNat_lt_of_isTail hc) (Nat.not_lt.2 h)
  cases hs : s.toList with
  | nil =>
    rw [hs] at hc
    cases hc
  | cons d ds =>
    by_cases hd : isHead d = true
    · have hmem : c ∈ ds := by
        rw [hs, List.mem_cons] at hc
        rcases hc with rfl | hc
        · rw [isTail_of_isHead hd] at htail
          cases htail
        · exact hc
      have hall : ds.all isTail = false := List.all_eq_false.2 ⟨c, hmem, by simp [htail]⟩
      exact .inr (by simp [fault?, hs, hd, hall])
    · exact .inl (by simp [fault?, hs, hd])

/-- **Validation tells the first broken rule.**  A text is accepted exactly if it has the form
`[A-Za-z_][A-Za-z0-9_]*`, fits in 63 bytes and is not a reserved word in any ASCII case.  If it is
refused, then the error names the text and the first of the rules that it breaks, in the order of
`Fault.all`.  The outcome is the same in every case of its ASCII letters.  A text with a character
beyond ASCII breaks a rule on characters first, also if lower case makes it a reserved word. -/
theorem validate_tells_first_broken_rule (s : String) :
    (validate s = .ok () ↔
      (∃ c cs, s.toList = c :: cs ∧ (IsLetter c ∨ c = '_') ∧
        ∀ d ∈ cs, IsLetter d ∨ IsDigit d ∨ d = '_') ∧
      s.utf8ByteSize ≤ 63 ∧ ∀ word ∈ reservedWords, Ascii.lower word ≠ Ascii.lower s) ∧
    (∀ e, validate s = .error e ↔ ∃ f, e = .invalidIdentifier s f ∧ f.BrokenBy s ∧
      ∃ before after, Fault.all = before ++ f :: after ∧ ∀ g ∈ before, ¬ g.BrokenBy s) ∧
    (∀ t, Ascii.lower s = Ascii.lower t → (validate s = .ok () ↔ validate t = .ok ()) ∧
      ∀ f, validate s = .error (.invalidIdentifier s f) ↔
        validate t = .error (.invalidIdentifier t f)) ∧
    ∀ c ∈ s.toList, 0x80 ≤ c.toNat →
      validate s = .error (.invalidIdentifier s .head) ∨
        validate s = .error (.invalidIdentifier s .tail) := by
  have herror {t : String} {f : Fault} :
      validate t = .error (.invalidIdentifier t f) ↔ fault? t = some f := by
    simp [validate_eq_error_iff]
  refine ⟨?_, fun e => ?_, fun t h => ⟨?_, fun f => ?_⟩, fun c hc h => ?_⟩
  · rw [validate_eq_ok_iff, fault?_eq_none_iff]
    simp only [isHead_iff, isTail_iff, isReserved_eq_false_iff, ← and_assoc, exists_and_right]
    rfl
  · simp only [validate_eq_error_iff, fault?_eq_some_iff]
  · rw [validate_eq_ok_iff, validate_eq_ok_iff, fault?_congr h]
  · rw [herror, herror, fault?_congr h]
  · rw [herror, herror]
    exact fault?_of_mem hc h

/-- In Unicode the lower case of the Kelvin sign is the letter `k`, but this is no reserved word. -/
example : isReserved (String.ofList ("\u212AEY".toList.flatMap lowercase)) = true ∧
    fault? "\u212AEY" = some .head := by
  decide +kernel

end Identifier

end Schemata
