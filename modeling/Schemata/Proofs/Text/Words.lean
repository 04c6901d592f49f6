import Schemata.Text.Words

/-!
# Words that are set apart

A text of words with a separator between each two is taken apart into these words, as long as they
have no capital letters, which may start a word themselves.  What is put between words when they are
joined again shows in the separators only.

* `words_intercalate` — words between separators are read back;
* `filter_intercalate` — the other characters of joined words.
-/

namespace Schemata

variable {c sep : Char} {w rest : List Char} {ws : List (List Char)}

/-! ### Joined words -/

/-- With a separator between each two words, there is one before each word but the first. -/
theorem intercalate_eq_flatMap (sep : Char) (w : List Char) (ws : List (List Char)) :
    List.intercalate [sep] (w :: ws) = w ++ ws.flatMap (sep :: ·) := by
  induction ws generalizing w with
  | nil => simp
  | cons w' ws ih => rw [List.intercalate_cons_cons, ih, List.flatMap_cons, List.append_assoc]; rfl

theorem filter_intercalate {p : Char → Bool} (hp : p sep = false) (ws : List (List Char)) :
    (List.intercalate [sep] ws).filter p = ws.flatten.filter p := by
  cases ws with
  | nil => rfl
  | cons w ws =>
    rw [intercalate_eq_flatMap, List.flatten_cons, List.filter_append, List.filter_append]
    congr 1
    induction ws with
    | nil => rfl
    | cons w' ws ih => simp [hp, ih]

/-! ### Words apart -/

theorem pieces_of_all (hw : ∀ c ∈ w, isAlphanumeric c = true) : pieces w = [w] := by
  induction w with
  | nil => rfl
  | cons c w ih =>
    rw [List.forall_mem_cons] at hw
    rw [pieces, if_pos hw.1, ih hw.2]

theorem pieces_append_cons (hw : ∀ c ∈ w, isAlphanumeric c = true)
    (hsep : isAlphanumeric sep = false) (rest : List Char) :
    pieces (w ++ sep :: rest) = w :: pieces rest := by
  induction w with
  | nil => rw [List.nil_append, pieces, hsep, if_neg Bool.false_ne_true]
  | cons c w ih =>
    rw [List.forall_mem_cons] at hw
    rw [List.cons_append, pieces, if_pos hw.1, ih hw.2]

theorem pieces_intercalate (hsep : isAlphanumeric sep = false) (hne : ws ≠ [])
    (hws : ∀ w ∈ ws, ∀ c ∈ w, isAlphanumeric c = true) :
    pieces (List.intercalate [sep] ws) = ws := by
  induction ws with
  | nil => exact absurd rfl hne
  | cons w ws ih =>
    rw [List.forall_mem_cons] at hws
    cases ws with
    | nil => rw [List.intercalate_singleton, pieces_of_all hws.1]
    | cons w' ws =>
      rw [List.intercalate_cons_cons, List.append_assoc, List.singleton_append,
        pieces_append_cons hws.1 hsep, ih (by simp) hws.2]

/-- A run without capital letters is one word. -/
theorem wordsFrom_of_all {cs : List Char} (hne : cs ≠ [])
    (hcs : ∀ c ∈ cs, isUppercase c = false) (mode : WordMode) (word : List Char) :
    wordsFrom mode word cs = [word ++ cs] := by
  induction cs generalizing mode word with
  | nil => exact absurd rfl hne
  | cons c cs ih =>
    rw [List.forall_mem_cons] at hcs
    cases cs with
    | nil => rfl
    | cons n cs =>
      have hn : isUppercase n = false := hcs.2 n List.mem_cons_self
      rw [wordsFrom, if_neg (by simp [hn]), if_neg (by simp [hcs.1]), ih (by simp) hcs.2,
        List.append_assoc, List.singleton_append]

/-- Words without capital letters are found between separators. -/
theorem words_intercalate (hsep : isAlphanumeric sep = false) (hne : ws ≠ [])
    (hws : ∀ w ∈ ws, w ≠ [] ∧ ∀ c ∈ w, isAlphanumeric c = true ∧ isUppercase c = false) :
    words (List.intercalate [sep] ws) = ws := by
  rw [words, pieces_intercalate hsep hne fun w hw c hc => ((hws w hw).2 c hc).1]
  clear hne
  induction ws with
  | nil => rfl
  | cons w ws ih =>
    rw [List.forall_mem_cons] at hws
    have hw : ∀ c ∈ w, isUppercase c = false := fun c hc => (hws.1.2 c hc).2
    rw [List.flatMap_cons, wordsFrom_of_all hws.1.1 hw, ih hws.2]
    rfl

end Schemata
