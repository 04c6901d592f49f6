import Schemata.Proofs.Text.Reader

/-!
# Literals with escapes

Where a backslash inside a literal escapes the character after it, a literal that was written with
doubled quotes only may be read otherwise than it was meant.  The string falls into pieces, single
characters and pairs of a backslash with the character that it escapes, and what is read depends on
the pieces one by one.

* `Reader.unescape` — reads a literal from behind its opening quote to its closing quote;
* `Reader.pieces` — the pieces of a string, with `Piece.isSafe` for those that do not reach for a
  quote, and `Piece.value` for what they are read as;
* `Reader.unescape_quoted_iff` — a string is read up to the quote that was written last exactly if
  all its pieces are safe, and then it is read as their values;
* `Reader.unescape_quoted_eq_self_iff` — it is read back exactly if its backslashes stand before
  `%` and `_` only, where they are kept.
-/

namespace Schemata

namespace Reader

/-! ### Escapes -/

/-- What an escaped character stands for.  The wildcards of patterns keep their backslash. -/
def escaped : Char → List Char
  | '0' => ['\x00']
  | 'b' => ['\x08']
  | 'n' => ['\n']
  | 'r' => ['\r']
  | 't' => ['\t']
  | 'Z' => ['\x1a']
  | '%' => ['\\', '%']
  | '_' => ['\\', '_']
  | c => [c]

/-- The string of a literal behind its opening quote, and what comes after its closing quote. -/
def unescape : List Char → Option (List Char × List Char)
  | [] => none
  | '\\' :: cs =>
    match cs with
    | [] => none
    | c :: cs => (unescape cs).map fun (s, rest) => (escaped c ++ s, rest)
  | '\'' :: cs =>
    match cs with
    | '\'' :: cs' => (unescape cs').map fun (s, rest) => ('\'' :: s, rest)
    | _ => some ([], cs)
  | c :: cs => (unescape cs).map fun (s, rest) => (c :: s, rest)

variable {s rest x : List Char} {c : Char}

theorem unescape_backslash (c : Char) (cs : List Char) : unescape ('\\' :: c :: cs) =
    (unescape cs).map fun (s, rest) => (escaped c ++ s, rest) := by
  rw [unescape]

theorem unescape_quotes (cs : List Char) : unescape ('\'' :: '\'' :: cs) =
    (unescape cs).map fun (s, rest) => ('\'' :: s, rest) := by
  rw [unescape]

theorem unescape_quote (h : Stops (· == '\'') rest) :
    unescape ('\'' :: rest) = some ([], rest) := by
  cases rest with
  | nil => rfl
  | cons c cs =>
    have hc : c ≠ '\'' := by simpa [stops_cons] using h
    simp [unescape, hc]

theorem unescape_cons (hb : c ≠ '\\') (hq : c ≠ '\'') (cs : List Char) :
    unescape (c :: cs) = (unescape cs).map fun (s, rest) => (c :: s, rest) := by
  simp [unescape]

/-- What was read before a part of it was put in front. -/
theorem map_eq_some_iff {f : List Char → List Char} {read : Option (List Char × List Char)} :
    (read.map fun (s, rest) => (f s, rest)) = some (x, rest) ↔
      ∃ y, read = some (y, rest) ∧ x = f y := by
  rcases read with _ | ⟨y, r⟩
  · simp
  · simp [and_comm, eq_comm]

/-- Something is read, the closing quote at least. -/
theorem length_lt_of_unescape {cs : List Char} (h : unescape cs = some (x, rest)) :
    rest.length < cs.length := by
  fun_induction unescape cs generalizing x with
  | case1 | case2 => cases h
  | case3 _ _ ih | case4 _ ih | case6 _ _ _ _ ih =>
    obtain ⟨y, hy, -⟩ := map_eq_some_iff.1 h
    have := ih hy
    simp only [List.length_cons]
    omega
  | case5 =>
    cases h
    exact Nat.lt_succ_self _

/-! ### Pieces -/

/-- A part of a string that is read by itself. -/
inductive Piece where
  /-- A character. -/
  | plain (c : Char)
  /-- A backslash and the character that it escapes. -/
  | escape (c : Char)
  /-- A backslash at the end of the string, which escapes whatever comes next. -/
  | dangling
deriving DecidableEq, Repr

namespace Piece

/-- The characters of the piece. -/
def text : Piece → List Char
  | plain c => [c]
  | escape c => ['\\', c]
  | dangling => ['\\']

/-- The characters that the piece is read as, inside of the string. -/
def value : Piece → List Char
  | plain c => [c]
  | escape c => escaped c
  | dangling => []

/-- Whether the piece escapes no quote, neither one of the string nor the closing one. -/
def isSafe : Piece → Bool
  | plain _ => true
  | escape c => c ≠ '\''
  | dangling => false

theorem length_escaped_le (c : Char) : (escaped c).length ≤ 2 := by
  unfold escaped
  split <;> simp

theorem escaped_eq_iff : escaped c = ['\\', c] ↔ c = '%' ∨ c = '_' := by
  unfold escaped
  split <;> simp_all

theorem length_value_le (p : Piece) : p.value.length ≤ p.text.length := by
  cases p with
  | plain c => simp [value, text]
  | escape c => exact length_escaped_le c
  | dangling => simp [value, text]

end Piece

/-- The pieces of a string. -/
def pieces : List Char → List Piece
  | [] => []
  | '\\' :: cs =>
    match cs with
    | [] => [.dangling]
    | c :: cs => .escape c :: pieces cs
  | c :: cs => .plain c :: pieces cs

theorem flatMap_text_pieces (s : List Char) : (pieces s).flatMap Piece.text = s := by
  fun_induction pieces s <;> simp_all [Piece.text]

/-! ### Reading a written string -/

theorem quoted_quote (cs : List Char) :
    ColumnDefault.quoted ('\'' :: cs) = '\'' :: '\'' :: ColumnDefault.quoted cs := by
  simp [ColumnDefault.quoted]

theorem quoted_cons (hc : c ≠ '\'') (cs : List Char) :
    ColumnDefault.quoted (c :: cs) = c :: ColumnDefault.quoted cs := by
  simp [ColumnDefault.quoted, hc]

/-- Once a quote of the string stands alone, the written end is missed.  Reading ends too early, or
it takes the last quote for half of a pair. -/
theorem unescape_quote_quoted_ne (s rest x : List Char) :
    unescape ('\'' :: (ColumnDefault.quoted s ++ '\'' :: rest)) ≠ some (x, rest) := by
  induction s generalizing x with
  | nil =>
    intro h
    rw [ColumnDefault.quoted, List.nil_append, unescape_quotes] at h
    obtain ⟨y, hy, -⟩ := map_eq_some_iff.1 h
    exact absurd (length_lt_of_unescape hy) (Nat.lt_irrefl _)
  | cons c cs ih =>
    intro h
    by_cases hc : c = '\''
    · -- a pair of quotes is read across the border of two others
      rw [hc, quoted_quote, List.cons_append, List.cons_append, unescape_quotes] at h
      obtain ⟨y, hy, -⟩ := map_eq_some_iff.1 h
      exact ih y hy
    · have hstop : Stops (· == '\'') (c :: (ColumnDefault.quoted cs ++ '\'' :: rest)) := by
        simpa [stops_cons] using hc
      rw [quoted_cons hc, List.cons_append, unescape_quote hstop] at h
      have hlen := congrArg List.length (congrArg Prod.snd (Option.some.inj h))
      simp only [List.length_cons, List.length_append] at hlen
      omega

/-- What is read of a written string, if it is read up to the quote that was written last. -/
theorem unescape_quoted_iff (hrest : Stops (· == '\'') rest) :
    unescape (ColumnDefault.quoted s ++ '\'' :: rest) = some (x, rest) ↔
      (∀ p ∈ pieces s, p.isSafe = true) ∧ x = (pieces s).flatMap Piece.value := by
  fun_induction pieces s generalizing x with
  | case1 =>
    rw [ColumnDefault.quoted, List.nil_append, unescape_quote hrest]
    simp
  | case2 =>
    -- the closing quote is escaped
    refine iff_of_false (fun h => ?_) (by simp [Piece.isSafe])
    rw [quoted_cons (by decide), ColumnDefault.quoted, List.singleton_append,
      unescape_backslash] at h
    obtain ⟨y, hy, -⟩ := map_eq_some_iff.1 h
    exact absurd (length_lt_of_unescape hy) (Nat.lt_irrefl _)
  | case3 c cs ih =>
    rw [quoted_cons (by decide)]
    by_cases hc : c = '\''
    · -- the first quote of a pair is escaped
      refine iff_of_false (fun h => ?_) (by simp [Piece.isSafe, hc])
      rw [hc, quoted_quote, List.cons_append, List.cons_append, unescape_backslash] at h
      obtain ⟨y, hy, -⟩ := map_eq_some_iff.1 h
      exact unescape_quote_quoted_ne _ _ _ hy
    · rw [quoted_cons hc, List.cons_append, List.cons_append, unescape_backslash, map_eq_some_iff]
      simp [ih, Piece.isSafe, Piece.value, hc]
  | case4 c cs hb ih =>
    by_cases hc : c = '\''
    · rw [hc, quoted_quote, List.cons_append, List.cons_append, unescape_quotes, map_eq_some_iff]
      simp [ih, Piece.isSafe, Piece.value]
    · rw [quoted_cons hc, List.cons_append, unescape_cons hb hc, map_eq_some_iff]
      simp [ih, Piece.isSafe, Piece.value]

/-- All pieces of the string are safe. -/
def IsContained (s : List Char) : Prop :=
  ∀ p ∈ pieces s, p.isSafe = true

/-- A string is read up to the quote that was written last exactly if all its pieces are safe. -/
theorem exists_unescape_quoted_iff (hrest : Stops (· == '\'') rest) :
    (∃ x, unescape (ColumnDefault.quoted s ++ '\'' :: rest) = some (x, rest)) ↔
      IsContained s := by
  simp [unescape_quoted_iff hrest, IsContained]

/-! ### Strings that are read back -/

/-- Pieces that are read as the whole are read as themselves, since none grows. -/
theorem flatMap_value_eq_iff {ps : List Piece} :
    ps.flatMap Piece.value = ps.flatMap Piece.text ↔ ∀ p ∈ ps, p.value = p.text := by
  have hle : ∀ ps : List Piece,
      (ps.flatMap Piece.value).length ≤ (ps.flatMap Piece.text).length := by
    intro ps
    induction ps with
    | nil => exact Nat.le_refl _
    | cons p ps ih =>
      simpa [List.flatMap_cons] using Nat.add_le_add p.length_value_le ih
  induction ps with
  | nil => simp
  | cons p ps ih =>
    rw [List.forall_mem_cons, List.flatMap_cons, List.flatMap_cons]
    refine Iff.trans ⟨fun h => ?_, fun ⟨hp, hps⟩ => by rw [hp, hps]⟩ (and_congr_right' ih)
    have hlen := congrArg List.length h
    have hp := p.length_value_le
    have hps := hle ps
    simp only [List.length_append] at hlen
    exact List.append_inj h (by omega)

/-- Every backslash stands before a wildcard. -/
def IsVerbatim (s : List Char) : Prop :=
  ∀ before after, s = before ++ '\\' :: after → ∃ c ∈ after.head?, c = '%' ∨ c = '_'

theorem isVerbatim_nil : IsVerbatim [] := by
  simp [IsVerbatim]

theorem isVerbatim_escape_iff {cs : List Char} :
    IsVerbatim ('\\' :: c :: cs) ↔ (c = '%' ∨ c = '_') ∧ IsVerbatim cs := by
  constructor
  · intro h
    refine ⟨by simpa using h [] (c :: cs) rfl, fun before after hcs => ?_⟩
    exact h ('\\' :: c :: before) after (by rw [hcs]; rfl)
  · rintro ⟨hc, hcs⟩ before after h
    rcases before with _ | ⟨b, _ | ⟨b', before⟩⟩
    · obtain ⟨-, rfl⟩ := List.cons.inj h
      exact ⟨c, rfl, hc⟩
    · -- the escaped character is no backslash itself
      obtain ⟨rfl, -⟩ := List.cons.inj (List.cons.inj h).2
      simp at hc
    · exact hcs before after (List.cons.inj (List.cons.inj h).2).2

theorem isVerbatim_plain_iff {cs : List Char} (hc : c ≠ '\\') :
    IsVerbatim (c :: cs) ↔ IsVerbatim cs := by
  constructor
  · intro h before after hcs
    exact h (c :: before) after (by rw [hcs]; rfl)
  · intro hcs before after h
    rcases before with _ | ⟨b, before⟩
    · exact absurd (List.cons.inj h).1 hc
    · exact hcs before after (List.cons.inj h).2

/-- The strings whose pieces are all read as themselves. -/
theorem isVerbatim_iff : IsVerbatim s ↔ ∀ p ∈ pieces s, p.value = p.text := by
  fun_induction pieces s with
  | case1 => simp [isVerbatim_nil]
  | case2 =>
    refine iff_of_false (fun h => ?_) (by simp [Piece.value, Piece.text])
    simpa using h [] [] rfl
  | case3 c cs ih =>
    rw [isVerbatim_escape_iff, List.forall_mem_cons, ih]
    simp [Piece.value, Piece.text, Piece.escaped_eq_iff]
  | case4 c cs hc ih =>
    rw [isVerbatim_plain_iff hc, List.forall_mem_cons, ih]
    simp [Piece.value, Piece.text]

theorem Piece.isSafe_of_value_eq {p : Piece} (h : p.value = p.text) : p.isSafe = true := by
  cases p with
  | plain c => rfl
  | escape c =>
    rcases escaped_eq_iff.1 h with rfl | rfl <;> decide
  | dangling => cases h

/-- A string is read back exactly if its backslashes stand before wildcards only. -/
theorem unescape_quoted_eq_self_iff (hrest : Stops (· == '\'') rest) :
    unescape (ColumnDefault.quoted s ++ '\'' :: rest) = some (s, rest) ↔ IsVerbatim s := by
  have hvalue : s = (pieces s).flatMap Piece.value ↔ IsVerbatim s := by
    rw [isVerbatim_iff, ← flatMap_value_eq_iff, flatMap_text_pieces, eq_comm]
  rw [unescape_quoted_iff hrest, hvalue, and_iff_right_iff_imp]
  exact fun h p hp => Piece.isSafe_of_value_eq (isVerbatim_iff.1 h p hp)

/-- What comes after a backslash and a quote is left outside of the literal. -/
theorem unescape_quoted_backslash_quote (hc : c ≠ '\'') (cs rest : List Char) :
    unescape (ColumnDefault.quoted ('\\' :: '\'' :: c :: cs) ++ '\'' :: rest) =
      some (['\''], ColumnDefault.quoted (c :: cs) ++ '\'' :: rest) := by
  have hstop : Stops (· == '\'') (ColumnDefault.quoted (c :: cs) ++ '\'' :: rest) := by
    simpa [quoted_cons hc, stops_cons] using hc
  rw [quoted_cons (by decide), quoted_quote, List.cons_append, List.cons_append, List.cons_append,
    unescape_backslash, unescape_quote hstop]
  rfl

end Reader

end Schemata
