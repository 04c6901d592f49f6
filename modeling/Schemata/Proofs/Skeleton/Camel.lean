import Schemata.Proofs.Skeleton.NormalForm

/-!
# Words with capitals

The name of a generated type has the words of a name in normal form, each with a capital letter, and
nothing between them.  In lower case it is the name without its underscores.  Where a word starts
shows in the capital letter, unless the word starts with a digit, so a name without digits is read
back from the type.

* `SkeletonName.camel_intercalate` — the words of a name, each with a capital letter;
* `SkeletonName.exists_camel_eq` — the characters of a type;
* `SkeletonName.flatMap_lowercase_camel` — the type in lower case;
* `SkeletonName.markCapitals` — words that start with a capital letter, marked by underscores;
* `SkeletonName.camel_eq_iff` — the one name of a type without digits.
-/

namespace Schemata

namespace SkeletonName

variable {c : Char} {name type w : List Char} {ws : List (List Char)}

/-! ### Capital letters -/

theorem toLower_of_isSmall (h : isSmall c = true) : c.toLower = c :=
  Ascii.toLower_eq_self (isSmall_iff.1 h).2

/-- Making a small letter a capital one is undone in lower case. -/
theorem lowercase_toUpper (h : isSmall c = true) : lowercase c.toUpper = [c] := by
  have hascii : c.toUpper.isAlphanum = true := by
    rw [Ascii.isAlphanum_toUpper, (isSmall_iff.1 h).1]
  rw [lowercase_of_toNat_lt (toNat_lt_of_isAlphanum hascii), Ascii.toLower_toUpper,
    toLower_of_isSmall h]

/-! ### The characters of a type -/

theorem capitalize_of_isSmall (hw : ∀ c ∈ w, isSmall c = true) :
    capitalize w = w.modifyHead Char.toUpper := by
  cases w with
  | nil => rfl
  | cons c w =>
    rw [List.forall_mem_cons] at hw
    rw [capitalize, flatMap_lowercase_of_isSmall hw.2, List.modifyHead_cons]

/-- A type has the words of the name, each with a capital letter. -/
theorem camel_intercalate (hne : ws ≠ []) (hws : AreWords ws) :
    camel (List.intercalate ['_'] ws) = ws.flatMap (·.modifyHead Char.toUpper) := by
  rw [camel, words_intercalate_of_areWords hne hws]
  exact List.flatMap_congr fun w hw => capitalize_of_isSmall (hws w hw).2

theorem isAlphanum_of_mem_camel (h : IsJoined name) (hc : c ∈ camel name) :
    c.isAlphanum = true := by
  obtain ⟨ws, hne, hws, rfl⟩ := h.exists_intercalate
  rw [camel_intercalate hne hws] at hc
  obtain ⟨w, hw, hc⟩ := List.mem_flatMap.1 hc
  have hsmall := (hws w hw).2
  cases w with
  | nil => cases hc
  | cons d w =>
    rw [List.forall_mem_cons] at hsmall
    rcases List.mem_cons.1 hc with rfl | hc
    · rw [Ascii.isAlphanum_toUpper, (isSmall_iff.1 hsmall.1).1]
    · exact (isSmall_iff.1 (hsmall.2 c hc)).1

/-- A type starts with the first character of the name, as a capital letter. -/
theorem head?_camel (h : IsJoined name) : (camel name).head? = name.head?.map Char.toUpper := by
  obtain ⟨ws, hne, hws, rfl⟩ := h.exists_intercalate
  rw [camel_intercalate hne hws]
  cases ws with
  | nil => exact absurd rfl hne
  | cons w ws =>
    rw [areWords_cons] at hws
    rw [intercalate_eq_flatMap]
    cases w with
    | nil => exact absurd rfl hws.1.1
    | cons c w => rfl

/-- A type is a capital letter with letters and digits after it. -/
theorem exists_camel_eq (h : IsNormal name) :
    ∃ c cs, camel name = c :: cs ∧ c.isUpper = true ∧ ∀ d ∈ cs, d.isAlphanum = true := by
  have hchars : ∀ d ∈ camel name, d.isAlphanum = true :=
    fun d => isAlphanum_of_mem_camel h.isJoined
  have hhead := head?_camel h.isJoined
  obtain ⟨c, w, ws, rfl, hc, -⟩ := h
  obtain ⟨cs, hcs⟩ := List.head?_eq_some_iff.1 hhead
  rw [hcs, List.forall_mem_cons] at hchars
  exact ⟨_, cs, hcs, Ascii.isUpper_toUpper hc, hchars.2⟩

/-- In lower case a type is the name without its underscores. -/
theorem flatMap_lowercase_camel (h : IsJoined name) :
    (camel name).flatMap lowercase = name.filter (· ≠ '_') := by
  obtain ⟨ws, hne, hws, rfl⟩ := h.exists_intercalate
  have hword : ∀ w ∈ ws, (w.modifyHead Char.toUpper).flatMap lowercase = w := by
    intro w hw
    have hsmall := (hws w hw).2
    cases w with
    | nil => rfl
    | cons c w =>
      rw [List.forall_mem_cons] at hsmall
      rw [List.modifyHead_cons, List.flatMap_cons, lowercase_toUpper hsmall.1,
        flatMap_lowercase_of_isSmall hsmall.2, List.singleton_append]
  have hkept : ws.flatten.filter (· ≠ '_') = ws.flatten := by
    refine List.filter_eq_self.2 fun c hc => ?_
    obtain ⟨w, hw, hc⟩ := List.mem_flatten.1 hc
    simpa using ne_underscore_of_isSmall ((hws w hw).2 c hc)
  rw [camel_intercalate hne hws, filter_intercalate (by simp), hkept, List.flatMap_assoc,
    List.flatMap_congr hword, List.flatMap_id']

/-! ### Reading a name back -/

/-- The text in small letters, with an underscore before each letter that was a capital one. -/
def markCapitals (type : List Char) : List Char :=
  type.flatMap fun c => if c.isUpper then ['_', c.toLower] else [c]

theorem markCapitals_of_isSmall (hw : ∀ c ∈ w, isSmall c = true) : markCapitals w = w := by
  induction w with
  | nil => rfl
  | cons c w ih =>
    rw [List.forall_mem_cons] at hw
    have hrest := ih hw.2
    unfold markCapitals at hrest ⊢
    rw [List.flatMap_cons, hrest, (isSmall_iff.1 hw.1).2]
    rfl

theorem markCapitals_modifyHead (hne : w ≠ []) (hw : ∀ c ∈ w, isSmall c = true)
    (hdigit : ∀ c ∈ w, c.isDigit = false) :
    markCapitals (w.modifyHead Char.toUpper) = '_' :: w := by
  cases w with
  | nil => exact absurd rfl hne
  | cons c w =>
    rw [List.forall_mem_cons] at hw
    have hlower : c.isLower = true := by
      simpa [isSmall, hdigit c List.mem_cons_self] using hw.1
    have hupper : c.toUpper.isUpper = true := Ascii.isUpper_toUpper hlower
    have hrest := markCapitals_of_isSmall hw.2
    unfold markCapitals at hrest ⊢
    rw [List.modifyHead_cons, List.flatMap_cons, hrest, hupper, if_pos rfl,
      Ascii.toLower_toUpper, toLower_of_isSmall hw.1]
    rfl

/-- The capital letters of a type without digits mark the words of its name. -/
theorem markCapitals_camel (h : IsJoined name) (hdigit : ∀ c ∈ name, c.isDigit = false) :
    markCapitals (camel name) = '_' :: name := by
  obtain ⟨ws, hne, hws, rfl⟩ := h.exists_intercalate
  have hall : '_' :: List.intercalate ['_'] ws = ws.flatMap ('_' :: ·) := by
    cases ws with
    | nil => exact absurd rfl hne
    | cons w ws => rw [intercalate_eq_flatMap, List.flatMap_cons, List.cons_append]
  have hword : ∀ w ∈ ws, markCapitals (w.modifyHead Char.toUpper) = '_' :: w := by
    intro w hw
    refine markCapitals_modifyHead (hws w hw).1 (hws w hw).2 fun c hc => hdigit c ?_
    have hmem : c ∈ '_' :: List.intercalate ['_'] ws :=
      hall ▸ List.mem_flatMap.2 ⟨w, hw, List.mem_cons_of_mem _ hc⟩
    exact (List.mem_cons.1 hmem).resolve_left (ne_underscore_of_isSmall ((hws w hw).2 c hc))
  rw [hall, camel_intercalate hne hws]
  unfold markCapitals at hword ⊢
  rw [List.flatMap_assoc, List.flatMap_congr hword]

/-- The digits of a name are in its type. -/
theorem isDigit_of_mem_name (h : IsJoined name) (htype : ∀ c ∈ camel name, c.isDigit = false)
    (hc : c ∈ name) : c.isDigit = false := by
  by_cases hunderscore : c = '_'
  · rw [hunderscore]
    rfl
  · have hmem : c ∈ (camel name).flatMap lowercase := by
      rw [flatMap_lowercase_camel h]
      simpa [hunderscore] using hc
    obtain ⟨d, hd, hc⟩ := List.mem_flatMap.1 hmem
    rw [lowercase_of_toNat_lt (toNat_lt_of_isAlphanum (isAlphanum_of_mem_camel h hd)),
      List.mem_singleton] at hc
    rw [hc, Ascii.isDigit_toLower, htype d hd]

/-- A type without digits is made from one name, which its capital letters tell. -/
theorem camel_eq_iff (h : IsJoined name) (hdigit : ∀ c ∈ type, c.isDigit = false)
    (htype : camel (markCapitals type).tail = type) :
    camel name = type ↔ name = (markCapitals type).tail := by
  constructor
  · rintro rfl
    have hmarked := markCapitals_camel h fun c hc => isDigit_of_mem_name h hdigit hc
    rw [hmarked, List.tail_cons]
  · rintro rfl
    exact htype

end SkeletonName

end Schemata
