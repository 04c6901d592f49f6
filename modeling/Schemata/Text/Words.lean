import Schemata.Text.Alphanumeric
import Schemata.Text.LetterCase

/-!
# Words

A text is taken apart into words at every character that is no letter or number, after a small
letter that a capital letter follows, and before the last capital letter of several if a small
letter follows it: `parseHTTPUrl` has the words `parse`, `HTTP` and `Url`.

* `pieces` — the runs of letters and numbers;
* `wordsFrom` — the words of one such run;
* `words` — the words of a text.
-/

namespace Schemata

/-! ### Runs of letters and numbers -/

/-- The texts between the characters that are no letter or number, empty ones included. -/
def pieces : List Char → List (List Char)
  | [] => [[]]
  | c :: cs =>
    if isAlphanumeric c then
      match pieces cs with
      | [] => [[c]]
      | p :: ps => (c :: p) :: ps
    else [] :: pieces cs

/-! ### Words of a run -/

/-- The case of the letters that a word has so far. -/
inductive WordMode where
  /-- There is none yet. -/
  | boundary
  /-- The last letter with a case is small. -/
  | lower
  /-- The last letter with a case is a capital. -/
  | upper
deriving DecidableEq, Repr

/-- The mode after a character that goes on with the word. -/
def WordMode.next (mode : WordMode) (c : Char) : WordMode :=
  if isLowercase c then .lower else if isUppercase c then .upper else mode

/-- The words of a run, when `word` is read of the first. -/
def wordsFrom (mode : WordMode) (word : List Char) : List Char → List (List Char)
  | [] => []
  | [c] => [word ++ [c]]
  | c :: n :: rest =>
    if mode.next c = .lower ∧ isUppercase n then
      (word ++ [c]) :: wordsFrom .boundary [] (n :: rest)
    else if mode = .upper ∧ isUppercase c ∧ isLowercase n then
      word :: wordsFrom .boundary [c] (n :: rest)
    else wordsFrom (mode.next c) (word ++ [c]) (n :: rest)

/-- The words of a text in order. -/
def words (cs : List Char) : List (List Char) :=
  (pieces cs).flatMap (wordsFrom .boundary [])

/-! ### Nothing is lost -/

theorem flatten_pieces (cs : List Char) : (pieces cs).flatten = cs.filter isAlphanumeric := by
  induction cs with
  | nil => rfl
  | cons c cs ih =>
    unfold pieces
    split
    next h =>
      rw [List.filter_cons_of_pos (by simpa using h), ← ih]
      cases pieces cs <;> simp
    next h =>
      rw [List.filter_cons_of_neg (by simpa using h), ← ih]
      simp

theorem flatten_wordsFrom (mode : WordMode) (word : List Char) {cs : List Char} (h : cs ≠ []) :
    (wordsFrom mode word cs).flatten = word ++ cs := by
  induction cs generalizing mode word with
  | nil => exact absurd rfl h
  | cons c cs ih =>
    cases cs with
    | nil => simp [wordsFrom]
    | cons n rest =>
      unfold wordsFrom
      split
      · simp [ih]
      · split <;> simp [ih]

/-- The words of a text hold its letters and numbers in order, and nothing else. -/
theorem flatten_words (cs : List Char) : (words cs).flatten = cs.filter isAlphanumeric := by
  rw [words, List.flatMap_def, ← flatten_pieces]
  induction pieces cs with
  | nil => rfl
  | cons p ps ih =>
    cases p with
    | nil => simpa [wordsFrom] using ih
    | cons c p => simp [ih, flatten_wordsFrom]

end Schemata
