import Schemata.Proofs.Skeleton.Usable

/-!
# The normal form of names

The normal forms are the texts `[a-z][a-z0-9]*(_[a-z0-9]+)*`: words of small letters and digits,
with one underscore between each two, of which the first starts with a letter.  The last stage on
the way to the normal form has small letters, digits and underscores only, with no two underscores
in a row and none at an end, so it falls into such words.  Taken apart again these are the same
words, since a word ends at a separator or before a capital letter, and no stage after that finds
anything to change.

* `SkeletonName.IsNormal` — the language of normal forms;
* `SkeletonName.exists_words` — a text with single underscores inside falls into words;
* `SkeletonName.IsJoined`, `SkeletonName.isNormal_iff` — such texts, and which of them are normal;
* `SkeletonName.isNormal_joined` — the last stage of a usable name is in the language;
* `SkeletonName.joined_of_isNormal` — a text of the language is its own last stage;
* `SkeletonName.normal_forms_are_fixed` — normal forms are fixed, and there are no others.
-/

namespace Schemata

namespace SkeletonName

variable {c : Char} {cs name s w : List Char} {ws : List (List Char)}

/-! ### Small letters and digits -/

/-- Whether the character is a small letter or a digit of ASCII. -/
def isSmall (c : Char) : Bool :=
  c.isLower || c.isDigit

theorem isSmall_iff : isSmall c = true ↔ c.isAlphanum = true ∧ c.isUpper = false := by
  have hupper : c.isUpper = false ↔ ¬ (0x41 ≤ c.toNat ∧ c.toNat ≤ 0x5A) := by
    rw [← Ascii.isUpper_iff, Bool.not_eq_true]
  rw [hupper, isSmall, Char.isAlphanum, Bool.or_eq_true, Bool.or_eq_true, Ascii.isAlpha_iff,
    Ascii.isLower_iff, Ascii.isDigit_iff]
  omega

theorem ne_underscore_of_isSmall (h : isSmall c = true) : c ≠ '_' := by
  rintro rfl
  cases h

theorem toNat_lt_of_isSmall (h : isSmall c = true) : c.toNat < 0x80 :=
  toNat_lt_of_isAlphanum (isSmall_iff.1 h).1

theorem isAlphanumeric_of_isSmall (h : isSmall c = true) : isAlphanumeric c = true := by
  rw [isAlphanumeric_of_toNat_lt (toNat_lt_of_isSmall h)]
  exact (isSmall_iff.1 h).1

theorem isUppercase_of_isSmall (h : isSmall c = true) : isUppercase c = false := by
  rw [isUppercase_of_toNat_lt (toNat_lt_of_isSmall h)]
  exact (isSmall_iff.1 h).2

theorem lowercase_of_isSmall (h : isSmall c = true) : lowercase c = [c] := by
  rw [lowercase_of_toNat_lt (toNat_lt_of_isSmall h), Ascii.toLower_eq_self (isSmall_iff.1 h).2]

/-- Underscores are made underscores, and small letters and digits stay. -/
theorem map_keepUsable (hcs : ∀ c ∈ cs, c = '_' ∨ isSmall c = true) : cs.map keepUsable = cs := by
  refine (List.map_congr_left fun c hc => ?_).trans (List.map_id cs)
  rcases hcs c hc with rfl | hsmall
  · rfl
  · rw [keepUsable, (isSmall_iff.1 hsmall).1, if_pos rfl, id]

theorem flatMap_lowercase_of_isSmall (hw : ∀ c ∈ w, isSmall c = true) :
    w.flatMap lowercase = w := by
  induction w with
  | nil => rfl
  | cons c w ih =>
    rw [List.forall_mem_cons] at hw
    rw [List.flatMap_cons, lowercase_of_isSmall hw.1, ih hw.2, List.singleton_append]

/-! ### Words of small letters and digits -/

/-- The words have small letters and digits only, and at least one. -/
def AreWords (ws : List (List Char)) : Prop :=
  ∀ w ∈ ws, w ≠ [] ∧ ∀ c ∈ w, isSmall c = true

theorem areWords_cons : AreWords (w :: ws) ↔
    (w ≠ [] ∧ ∀ c ∈ w, isSmall c = true) ∧ AreWords ws :=
  List.forall_mem_cons

/-- A text of small letters, digits and underscores falls into words, if no underscore follows
another one and none is the last character.  Only the first word may be empty. -/
theorem exists_words (hcs : ∀ c ∈ cs, c = '_' ∨ isSmall c = true) (hpair : hasPair cs = false)
    (hlast : cs.getLast? ≠ some '_') :
    ∃ w ws, cs = w ++ ws.flatMap ('_' :: ·) ∧ (∀ c ∈ w, isSmall c = true) ∧ AreWords ws := by
  induction cs with
  | nil => exact ⟨[], [], rfl, by simp, by simp [AreWords]⟩
  | cons c cs ih =>
    rw [List.forall_mem_cons] at hcs
    rcases hcs.1 with rfl | hc
    · -- the rest starts with a word that is not empty, and the underscore opens it
      cases cs with
      | nil => exact absurd rfl hlast
      | cons d cs =>
        have hd : d ≠ '_' := by
          rintro rfl
          cases hpair
        rw [hasPair_underscore_cons hd] at hpair
        rw [List.getLast?_cons_cons] at hlast
        obtain ⟨w, ws, heq, hw, hws⟩ := ih hcs.2 hpair hlast
        have hne : w ≠ [] := by
          rintro rfl
          cases ws with
          | nil => cases heq
          | cons v ws => exact hd (List.cons.inj heq).1
        exact ⟨[], w :: ws, by rw [heq]; rfl, by simp, areWords_cons.2 ⟨⟨hne, hw⟩, hws⟩⟩
    · -- the character is added to the first word
      rw [hasPair_cons_of_ne (ne_underscore_of_isSmall hc)] at hpair
      have hlast : cs.getLast? ≠ some '_' := by
        cases cs with
        | nil => simp
        | cons d cs => rwa [List.getLast?_cons_cons] at hlast
      obtain ⟨w, ws, heq, hw, hws⟩ := ih hcs.2 hpair hlast
      exact ⟨c :: w, ws, by rw [heq]; rfl, List.forall_mem_cons.2 ⟨hc, hw⟩, hws⟩

theorem hasPair_append (hw : ∀ c ∈ w, isSmall c = true) (cs : List Char) :
    hasPair (w ++ cs) = hasPair cs := by
  induction w with
  | nil => rfl
  | cons c w ih =>
    rw [List.forall_mem_cons] at hw
    rw [List.cons_append, hasPair_cons_of_ne (ne_underscore_of_isSmall hw.1), ih hw.2]

/-- Underscores before words do not follow each other. -/
theorem hasPair_flatMap (hws : AreWords ws) : hasPair (ws.flatMap ('_' :: ·)) = false := by
  induction ws with
  | nil => rfl
  | cons w ws ih =>
    obtain ⟨⟨hne, hw⟩, hrest⟩ := areWords_cons.1 hws
    cases w with
    | nil => exact absurd rfl hne
    | cons c w =>
      have hc : c ≠ '_' := ne_underscore_of_isSmall (hw c List.mem_cons_self)
      rw [List.flatMap_cons, List.cons_append, List.cons_append, hasPair_underscore_cons hc,
        ← List.cons_append, hasPair_append hw, ih hrest]

/-- The text that words make has small letters, digits and underscores. -/
theorem mem_append_flatMap (hw : ∀ c ∈ w, isSmall c = true) (hws : AreWords ws)
    (hc : c ∈ w ++ ws.flatMap ('_' :: ·)) : c = '_' ∨ isSmall c = true := by
  rcases List.mem_append.1 hc with hc | hc
  · exact .inr (hw c hc)
  · obtain ⟨v, hv, hc⟩ := List.mem_flatMap.1 hc
    exact (List.mem_cons.1 hc).imp_right ((hws v hv).2 c)

/-- The last word ends the text. -/
theorem getLast?_append_flatMap (hw : ∀ c ∈ w, isSmall c = true) (hws : AreWords ws) :
    (w ++ ws.flatMap ('_' :: ·)).getLast? ≠ some '_' := by
  induction ws generalizing w with
  | nil =>
    rw [List.flatMap_nil, List.append_nil]
    exact fun h => ne_underscore_of_isSmall (hw '_' (List.mem_of_getLast? h)) rfl
  | cons v ws ih =>
    obtain ⟨⟨hne, hv⟩, hws⟩ := areWords_cons.1 hws
    have hshift : w ++ (v :: ws).flatMap ('_' :: ·) =
        (w ++ ['_']) ++ (v ++ ws.flatMap ('_' :: ·)) := by simp
    rw [hshift, List.getLast?_append_of_ne_nil _ (by simp [hne])]
    exact ih hv hws

/-! ### Joined words -/

/-- The text is made of words, with one underscore between each two. -/
structure IsJoined (cs : List Char) : Prop where
  /-- There is a word. -/
  ne_nil : cs ≠ []
  /-- Words have small letters and digits. -/
  mem : ∀ c ∈ cs, c = '_' ∨ isSmall c = true
  /-- No two underscores follow each other. -/
  apart : hasPair cs = false
  /-- The text does not start with an underscore. -/
  head : cs.head? ≠ some '_'
  /-- The text does not end with an underscore. -/
  last : cs.getLast? ≠ some '_'

theorem IsJoined.exists_words (h : IsJoined cs) :
    ∃ c w ws, cs = c :: w ++ ws.flatMap ('_' :: ·) ∧ (∀ d ∈ c :: w, isSmall d = true) ∧
      AreWords ws := by
  obtain ⟨w, ws, heq, hw, hws⟩ := SkeletonName.exists_words h.mem h.apart h.last
  cases w with
  | nil =>
    -- the text would be empty or start with an underscore
    cases ws with
    | nil => exact absurd heq h.ne_nil
    | cons v ws => exact absurd (congrArg List.head? heq) h.head
  | cons c w => exact ⟨c, w, ws, heq, hw, hws⟩

theorem IsJoined.exists_intercalate (h : IsJoined cs) :
    ∃ ws, ws ≠ [] ∧ AreWords ws ∧ cs = List.intercalate ['_'] ws := by
  obtain ⟨c, w, ws, heq, hw, hws⟩ := h.exists_words
  exact ⟨(c :: w) :: ws, by simp, areWords_cons.2 ⟨⟨by simp, hw⟩, hws⟩,
    heq.trans (intercalate_eq_flatMap '_' (c :: w) ws).symm⟩

theorem isJoined_of_words (hw : ∀ d ∈ c :: w, isSmall d = true) (hws : AreWords ws) :
    IsJoined (c :: w ++ ws.flatMap ('_' :: ·)) where
  ne_nil := by simp
  mem d := mem_append_flatMap hw hws
  apart := by rw [hasPair_append hw, hasPair_flatMap hws]
  head := by simpa using ne_underscore_of_isSmall (hw c List.mem_cons_self)
  last := getLast?_append_flatMap hw hws

/-- The last stage is made of words, if there are any. -/
theorem isJoined_joined (h : joined name ≠ []) : IsJoined (joined name) where
  ne_nil := h
  mem _ hc := (mem_joined hc).imp_right isSmall_iff.2
  apart := hasPair_trimUnderscores (hasPair_collapse _)
  head := head?_trimUnderscores _
  last := getLast?_trimUnderscores _

/-! ### The language -/

/-- The text has the form `[a-z][a-z0-9]*(_[a-z0-9]+)*`. -/
def IsNormal (s : List Char) : Prop :=
  ∃ (c : Char) (w : List Char) (ws : List (List Char)), s = c :: w ++ ws.flatMap ('_' :: ·) ∧
    c.isLower = true ∧ (∀ d ∈ w, isSmall d = true) ∧ AreWords ws

theorem isDigit_of_isLower (h : c.isLower = true) : c.isDigit = false := by
  rw [Ascii.isLower_iff] at h
  rw [Bool.eq_false_iff, ne_eq, Ascii.isDigit_iff]
  omega

/-- The texts of the language are the joined words that do not start with a digit. -/
theorem isNormal_iff : IsNormal s ↔ IsJoined s ∧ ∀ c ∈ s.head?, c.isDigit = false := by
  constructor
  · rintro ⟨c, w, ws, rfl, hc, hw, hws⟩
    have hsmall : isSmall c = true := by rw [isSmall, hc, Bool.true_or]
    exact ⟨isJoined_of_words (List.forall_mem_cons.2 ⟨hsmall, hw⟩) hws,
      by simpa using isDigit_of_isLower hc⟩
  · rintro ⟨hjoined, hhead⟩
    obtain ⟨c, w, ws, rfl, hw, hws⟩ := hjoined.exists_words
    rw [List.forall_mem_cons] at hw
    have hdigit : c.isDigit = false := by simpa using hhead
    have hlower : c.isLower = true := by simpa [isSmall, hdigit] using hw.1
    exact ⟨c, w, ws, rfl, hlower, hw.2, hws⟩

theorem IsNormal.isJoined (h : IsNormal s) : IsJoined s :=
  (isNormal_iff.1 h).1

/-- The last stage of a usable name is in the language. -/
theorem isNormal_joined (h : ¬ IsUnusable name) : IsNormal (joined name) := by
  rw [isUnusable_iff, ← head?_joined] at h
  refine isNormal_iff.2 ⟨isJoined_joined ?_, fun _ hc => ?_⟩
  · intro hnil
    exact h (by rw [hnil]; rfl)
  · rw [hc] at h
    simpa using h

/-- Joined words are taken apart into these words. -/
theorem words_intercalate_of_areWords (hne : ws ≠ []) (hws : AreWords ws) :
    words (List.intercalate ['_'] ws) = ws :=
  words_intercalate (by decide) hne fun w hw => ⟨(hws w hw).1, fun c hc =>
    ⟨isAlphanumeric_of_isSmall ((hws w hw).2 c hc), isUppercase_of_isSmall ((hws w hw).2 c hc)⟩⟩

/-- The words of a text of the language are the ones it is made of. -/
theorem snake_intercalate (hne : ws ≠ []) (hws : AreWords ws) :
    snake (List.intercalate ['_'] ws) = List.intercalate ['_'] ws := by
  have hlower : ws.map (·.flatMap lowercase) = ws :=
    (List.map_congr_left fun w hw => flatMap_lowercase_of_isSmall (hws w hw).2).trans ws.map_id
  rw [snake, words_intercalate_of_areWords hne hws, hlower]

/-- Joined words are their own last stage. -/
theorem joined_of_isJoined (h : IsJoined s) : joined s = s := by
  have hsnake : snake s = s := by
    obtain ⟨ws, hne, hws, rfl⟩ := h.exists_intercalate
    exact snake_intercalate hne hws
  rw [joined, hsnake, map_keepUsable h.mem, collapse_eq_self h.apart,
    trimUnderscores_eq_self h.head h.last]

/-- Joined words are unusable as a name exactly if they start with a digit. -/
theorem isUnusable_of_isJoined (h : IsJoined s) :
    IsUnusable s ↔ ∃ c ∈ s.head?, c.isDigit = true := by
  rw [isUnusable_iff, ← head?_joined, joined_of_isJoined h]
  have hne := h.ne_nil
  cases s <;> simp_all

theorem joined_of_isNormal (h : IsNormal s) : joined s = s :=
  joined_of_isJoined h.isJoined

/-- A text of the language is a usable name, since it starts with a letter. -/
theorem not_isUnusable_of_isNormal (h : IsNormal s) : ¬ IsUnusable s := by
  obtain ⟨hjoined, hhead⟩ := isNormal_iff.1 h
  rw [isUnusable_of_isJoined hjoined]
  rintro ⟨c, hc, hdigit⟩
  rw [hhead c hc] at hdigit
  cases hdigit

theorem isNormal_of_normalize? (h : normalize? name = some s) : IsNormal s := by
  obtain ⟨rfl, husable⟩ := normalize?_eq_some_iff.1 h
  exact isNormal_joined husable

theorem normalize?_of_isNormal (h : IsNormal s) : normalize? s = some s :=
  normalize?_eq_some_iff.2 ⟨joined_of_isNormal h, not_isUnusable_of_isNormal h⟩

/-- A skeleton is made from the normal form of its name only. -/
theorem render_of_normalize? {kind : SkeletonKind} {name : String}
    (h : normalize? name.toList = some s) (seconds : Int) :
    Skeleton.render kind (String.ofList s) seconds = Skeleton.render kind name seconds := by
  have hs : normalize? s = some s := normalize?_of_isNormal (isNormal_of_normalize? h)
  rw [Skeleton.render, Skeleton.render, h, String.toList_ofList, hs]

/-- **Normal forms are fixed.**  The normal forms of names are the texts
`[a-z][a-z0-9]*(_[a-z0-9]+)*`, and each of these is its own normal form.  So to normalize a name
twice changes nothing, and a name and its normal form give the same skeleton. -/
theorem normal_forms_are_fixed :
    (∀ name s, normalize? name = some s → IsNormal s) ∧
    (∀ s, IsNormal s → normalize? s = some s) ∧
    (∀ s, (∃ name, normalize? name = some s) ↔ IsNormal s) ∧
    (∀ name, (normalize? name).bind normalize? = normalize? name) ∧
    ∀ kind (name : String) s seconds, normalize? name.toList = some s →
      Skeleton.render kind (String.ofList s) seconds = Skeleton.render kind name seconds := by
  refine ⟨fun name s => isNormal_of_normalize?, fun s => normalize?_of_isNormal,
    fun s => ⟨?_, fun h => ⟨s, normalize?_of_isNormal h⟩⟩, fun name => ?_,
    fun kind name s seconds h => render_of_normalize? h seconds⟩
  · rintro ⟨name, h⟩
    exact isNormal_of_normalize? h
  · cases h : normalize? name with
    | none => rfl
    | some s => exact normalize?_of_isNormal (isNormal_of_normalize? h)

-- the capital I with dot above becomes two characters, and the Kelvin sign an ASCII letter
example : normalize? "--\u0130zmirHTTP2go \u212A9__".toList = some "i_zmir_http2go_k9".toList := by
  decide +kernel

end SkeletonName

end Schemata
