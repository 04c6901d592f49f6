import Mathlib.Data.List.Basic
import Schemata.Column.Basic
import Schemata.Identifier

/-!
# Readers

A reader takes something off the front of a text and leaves the rest.  It reads a text back if it
takes off exactly this text, given what comes after it; so readers in a row read texts in a row.

* `Reader.Reads` — what it means to read a text back, with `Reads.bind` for readers in a row;
* `Reader.literal`, `Reader.flag` — a text that must be there, and one that may be there;
* `Reader.word`, `Reader.natural`, `Reader.integer` — identifiers and numerals;
* `Reader.closing`, `Reader.string` — a string up to its closing quote, whatever stands in it;
* `Reader.run_string_sql_iff` — the string of a default is read back exactly if no quote follows.
-/

namespace Schemata

/-- A reader of the front of a text. -/
abbrev Reader (α : Type) := StateT (List Char) Option α

namespace Reader

/-! ### Readers in a row -/

section Reads

variable {α β : Type} {r : Reader α} {next : α → Reader β} {a : α} {b : β} {s t rest : List Char}

/-- The reader takes `s` for `a` when `rest` comes after it. -/
def Reads (r : Reader α) (s : List Char) (a : α) (rest : List Char) : Prop :=
  r.run (s ++ rest) = some (a, rest)

theorem Reads.pure (a : α) (rest : List Char) : Reads (pure a) [] a rest := rfl

theorem Reads.bind (h : Reads r s a (t ++ rest)) (h' : Reads (next a) t b rest) :
    Reads (r >>= next) (s ++ t) b rest := by
  unfold Reads at *
  rw [List.append_assoc, StateT.run_bind, h]
  exact h'

/-- A reader that takes nothing may stand before another one. -/
theorem Reads.bind_nil (h : Reads r [] a (s ++ rest)) (h' : Reads (next a) s b rest) :
    Reads (r >>= next) s b rest :=
  Reads.bind h h'

/-- The last reader of a row is followed by the answer alone. -/
theorem Reads.last (h : Reads r s a rest) (h' : next a = Pure.pure b) :
    Reads (r >>= next) s b rest := by
  rw [← List.append_nil s]
  exact Reads.bind h (h' ▸ Reads.pure b rest)

/-- A text is read in one way only. -/
theorem Reads.unique {a' : α} {s' rest' : List Char} (h : Reads r s a rest)
    (h' : Reads r s' a' rest') (he : s ++ rest = s' ++ rest') : a = a' ∧ rest = rest' := by
  unfold Reads at *
  rw [he, h'] at h
  simpa [eq_comm] using h

end Reads

/-! ### Given texts -/

/-- Takes off a text that must be there. -/
def literal (text : String) : Reader Unit :=
  fun s => (text.toList.isPrefixOf? s).map fun rest => ((), rest)

/-- Takes off a text if it is there, and tells whether it was. -/
def flag (text : String) : Reader Bool :=
  fun s =>
    match text.toList.isPrefixOf? s with
    | some rest => some (true, rest)
    | none => some (false, s)

theorem isPrefixOf?_append (s rest : List Char) : s.isPrefixOf? (s ++ rest) = some rest :=
  List.isPrefixOf?_eq_some_iff_append_eq.2 rfl

theorem reads_literal (text : String) (rest : List Char) :
    Reads (literal text) text.toList () rest := by
  simp [Reads, literal, StateT.run, isPrefixOf?_append]

theorem reads_flag_true (text : String) (rest : List Char) :
    Reads (flag text) text.toList true rest := by
  simp [Reads, flag, StateT.run, isPrefixOf?_append]

theorem reads_flag_false {text : String} {rest : List Char}
    (h : text.toList.isPrefixOf? rest = none) : Reads (flag text) [] false rest := by
  simp [Reads, flag, StateT.run, h]

theorem reads_flag {text : String} {b : Bool} {rest : List Char}
    (h : b = false → text.toList.isPrefixOf? rest = none) :
    Reads (flag text) (if b then text else "").toList b rest := by
  cases b with
  | true => exact reads_flag_true text rest
  | false => exact reads_flag_false (h rfl)

/-! ### What may follow -/

/-- The text does not go on with a character of the class. -/
def Stops (p : Char → Bool) (rest : List Char) : Prop :=
  ∀ c ∈ rest.head?, p c = false

theorem stops_cons {p : Char → Bool} {c : Char} {cs : List Char} :
    Stops p (c :: cs) ↔ p c = false := by
  simp [Stops]

theorem stops_append {p : Char → Bool} {s rest : List Char} (hne : s ≠ [])
    (hs : ∀ c ∈ s, p c = false) : Stops p (s ++ rest) := by
  obtain ⟨c, cs, rfl⟩ := List.exists_cons_of_ne_nil hne
  exact stops_cons.2 (hs c (by simp))

theorem isPrefixOf?_of_stops {c : Char} {cs rest : List Char} (h : Stops (· == c) rest) :
    (c :: cs).isPrefixOf? rest = none := by
  cases rest with
  | nil => rfl
  | cons d ds =>
    have hdc : d ≠ c := by simpa [stops_cons] using h
    simp [List.isPrefixOf?, hdc.symm]

/-! ### Words -/

/-- Takes off the longest front of characters of a class. -/
def span (p : Char → Bool) : Reader (List Char) :=
  fun s => some (s.takeWhile p, s.dropWhile p)

theorem reads_span {p : Char → Bool} {s rest : List Char} (hs : ∀ c ∈ s, p c = true)
    (hrest : Stops p rest) : Reads (span p) s s rest := by
  have hcut : rest.takeWhile p = [] ∧ rest.dropWhile p = rest := by
    cases rest with
    | nil => exact ⟨rfl, rfl⟩
    | cons c cs => simp [stops_cons.1 hrest]
  simp [Reads, span, StateT.run, List.takeWhile_append_of_pos hs, List.dropWhile_append_of_pos hs,
    hcut]

/-- Takes off the characters of an identifier. -/
def word : Reader String := do
  let cs ← span Identifier.isTail
  return String.ofList cs

theorem reads_word {w : String} {rest : List Char} (hw : w.toList.all Identifier.isTail = true)
    (hrest : Stops Identifier.isTail rest) : Reads word w.toList w rest :=
  (reads_span (List.all_eq_true.1 hw) hrest).last (by rw [String.ofList_toList])

/-! ### Numerals -/

/-- Takes off the numeral of a natural number. -/
def natural : Reader Nat := do
  let ds ← span Char.isDigit
  return Decimal.value ds

theorem toList_ofNat (n : Nat) : (Decimal.ofNat n).toList = Decimal.digits n :=
  String.toList_ofList

theorem reads_natural {n : Nat} {rest : List Char} (hrest : Stops Char.isDigit rest) :
    Reads natural (Decimal.ofNat n).toList n rest := by
  have hds : ∀ c ∈ Decimal.digits n, c.isDigit = true := fun c => Decimal.isDigit_of_mem_digits
  rw [toList_ofNat]
  exact (reads_span hds hrest).last (by rw [Decimal.value_digits])

/-- Takes off the numeral of an integer. -/
def integer : Reader Int := do
  let negative ← flag "-"
  let n ← natural
  return if negative then -(n : Int) else n

theorem digits_ne_nil (n : Nat) : Decimal.digits n ≠ [] := by
  fun_cases Decimal.digits n <;> simp

/-- A numeral starts with a digit. -/
theorem stops_digits {x : Char} (hx : x.isDigit = false) (n : Nat) (rest : List Char) :
    Stops (· == x) (Decimal.digits n ++ rest) := by
  refine stops_append (digits_ne_nil n) fun c hc => beq_eq_false_iff_ne.2 ?_
  rintro rfl
  rw [Decimal.isDigit_of_mem_digits hc] at hx
  cases hx

/-- An integer starts with a digit or a minus sign. -/
theorem stops_ofInt {x : Char} (hx : x.isDigit = false ∧ x ≠ '-') (n : Int) (rest : List Char) :
    Stops (· == x) ((Decimal.ofInt n).toList ++ rest) := by
  cases n with
  | ofNat n =>
    rw [Decimal.ofInt, toList_ofNat]
    exact stops_digits hx.1 n rest
  | negSucc n =>
    rw [Decimal.ofInt, String.toList_append]
    exact stops_cons.2 (beq_eq_false_iff_ne.2 hx.2.symm)

theorem reads_integer {n : Int} {rest : List Char} (hrest : Stops Char.isDigit rest) :
    Reads integer (Decimal.ofInt n).toList n rest := by
  cases n with
  | ofNat n =>
    have hminus : Reads (flag "-") [] false ((Decimal.ofNat n).toList ++ rest) := by
      rw [toList_ofNat]
      exact reads_flag_false (isPrefixOf?_of_stops (stops_digits (by decide) n rest))
    rw [Decimal.ofInt]
    exact hminus.bind_nil ((reads_natural hrest).last rfl)
  | negSucc n =>
    rw [Decimal.ofInt, String.toList_append]
    exact (reads_flag_true "-" _).bind ((reads_natural hrest).last rfl)

/-! ### Strings -/

/-- The string before the closing quote, and what comes after it.  Two quotes in a row are a quote
of the string. -/
def unquote : List Char → Option (List Char × List Char)
  | [] => none
  | '\'' :: '\'' :: cs => (unquote cs).map fun (s, rest) => ('\'' :: s, rest)
  | '\'' :: cs => some ([], cs)
  | c :: cs => (unquote cs).map fun (s, rest) => (c :: s, rest)

theorem unquote_quote {rest : List Char} (h : Stops (· == '\'') rest) :
    unquote ('\'' :: rest) = some ([], rest) := by
  cases rest with
  | nil => rfl
  | cons c cs =>
    have hc : c ≠ '\'' := by simpa [stops_cons] using h
    simp [unquote, hc]

/-- Every character of the string is read by itself, so nothing of it reaches into what follows. -/
theorem unquote_quoted_append (s t : List Char) :
    unquote (ColumnDefault.quoted s ++ t) = (unquote t).map fun (x, rest) => (s ++ x, rest) := by
  induction s with
  | nil => simp [ColumnDefault.quoted]
  | cons c s ih =>
    by_cases hc : c = '\''
    · simp [ColumnDefault.quoted, unquote, hc, ih, Function.comp_def]
    · simp [ColumnDefault.quoted, unquote, hc, ih, Function.comp_def]

theorem unquote_quoted {s rest : List Char} (hrest : Stops (· == '\'') rest) :
    unquote (ColumnDefault.quoted s ++ '\'' :: rest) = some (s, rest) := by
  simp [unquote_quoted_append, unquote_quote hrest]

/-- Something is read, the closing quote at least. -/
theorem length_lt_of_unquote {cs x rest : List Char} (h : unquote cs = some (x, rest)) :
    rest.length < cs.length := by
  fun_induction unquote cs generalizing x with
  | case1 => cases h
  | case2 cs ih | case4 c cs _ _ ih =>
    obtain ⟨⟨y, r⟩, hy, hxy⟩ := Option.map_eq_some_iff.1 h
    cases hxy
    have := ih hy
    simp only [List.length_cons]
    omega
  | case3 =>
    cases h
    exact Nat.lt_succ_self _

/-- A string is read back exactly if no quote comes after its closing one. -/
theorem unquote_quoted_iff {s rest : List Char} :
    unquote (ColumnDefault.quoted s ++ '\'' :: rest) = some (s, rest) ↔
      Stops (· == '\'') rest := by
  refine ⟨fun h c hc => ?_, unquote_quoted⟩
  obtain ⟨cs, rfl⟩ := List.head?_eq_some_iff.1 hc
  rw [beq_eq_false_iff_ne]
  rintro rfl
  -- the closing quote makes a pair with the next one, and reading goes on behind both
  rw [unquote_quoted_append, unquote] at h
  simp only [Option.map_map, Option.map_eq_some_iff] at h
  obtain ⟨⟨y, r⟩, hy, hrest⟩ := h
  have hlength := length_lt_of_unquote hy
  obtain rfl : r = '\'' :: cs := (Prod.mk.inj hrest).2
  simp only [List.length_cons] at hlength
  omega

/-- Takes off the text of a string after its opening quote. -/
def closing : Reader String :=
  fun s => (unquote s).map fun (cs, rest) => (String.ofList cs, rest)

theorem reads_closing {s : String} {rest : List Char} (hrest : Stops (· == '\'') rest) :
    Reads closing (ColumnDefault.quoted s.toList ++ ['\'']) s rest := by
  simp [Reads, closing, StateT.run, unquote_quoted hrest]

/-- Takes off a string with the quotes around it. -/
def string : Reader String := do
  literal "'"
  closing

theorem run_string_sql (s : String) (rest : List Char) :
    string.run ((ColumnDefault.string s).sql.toList ++ rest) =
      closing.run (ColumnDefault.quoted s.toList ++ '\'' :: rest) := by
  have htext : (ColumnDefault.string s).sql.toList ++ rest =
      "'".toList ++ (ColumnDefault.quoted s.toList ++ '\'' :: rest) := by
    simp [ColumnDefault.sql]
  rw [htext, string, StateT.run_bind, reads_literal]
  rfl

/-- A default that is a string is read back exactly if no quote comes after it. -/
theorem run_string_sql_iff {s : String} {rest : List Char} :
    string.run ((ColumnDefault.string s).sql.toList ++ rest) = some (s, rest) ↔
      Stops (· == '\'') rest := by
  rw [run_string_sql, ← unquote_quoted_iff (s := s.toList)]
  constructor
  · intro h
    obtain ⟨⟨x, r⟩, hread, hxr⟩ := Option.map_eq_some_iff.1 h
    cases hxr
    simpa using hread
  · intro h
    simp [closing, StateT.run, h]

end Reader

end Schemata
