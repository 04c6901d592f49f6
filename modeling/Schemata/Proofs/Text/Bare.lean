import Schemata.Proofs.Text.Reader

/-!
# Text outside literals

In an SQL text a quote opens a literal, and the next one closes it unless it is followed by another
one, with which it stands for a quote of the literal.  What a statement is made of shows in the
characters outside its literals: their parentheses tell how it is nested, and a semicolon ends it.

* `Sql.bare?` — the characters of a text outside its literals;
* `Sql.level` — the number of parentheses that are open after a text;
* `Sql.Nests` — a part of a statement and the parentheses that it opens or closes, so that the parts
  of a statement can be told one after another (`Sql.Nests.append`);
* `Sql.IsSingle`, `Sql.IsEnclosed` — one statement, and one that ends with its outermost
  parentheses.
-/

namespace Schemata

namespace Sql

/-! ### Literals -/

mutual

/-- The characters of a text outside its literals, if it does not end inside one. -/
def bare? : List Char → Option (List Char)
  | [] => some []
  | '\'' :: cs => bareAfter? cs
  | c :: cs => (bare? cs).map (c :: ·)

/-- The same for what comes after the opening quote of a literal.  Two quotes inside stand for
one. -/
def bareAfter? : List Char → Option (List Char)
  | [] => none
  | '\'' :: '\'' :: cs => bareAfter? cs
  | '\'' :: cs => bare? cs
  | _ :: cs => bareAfter? cs

end

variable {s t b : List Char} {c : Char}

theorem bare?_cons (hc : c ≠ '\'') (cs : List Char) :
    bare? (c :: cs) = (bare? cs).map (c :: ·) :=
  bare?.eq_3 c cs hc

theorem bareAfter?_cons (hc : c ≠ '\'') (cs : List Char) :
    bareAfter? (c :: cs) = bareAfter? cs :=
  bareAfter?.eq_4 c cs (fun _ h _ => hc h) hc

/-- It does not matter whether a quote that is written twice stands for one or closes the literal
and opens another one. -/
theorem bareAfter?_quote (cs : List Char) : bareAfter? ('\'' :: cs) = bare? cs := by
  cases cs with
  | nil => rfl
  | cons c cs =>
    by_cases hc : c = '\''
    · subst hc
      rw [bareAfter?, bare?]
    · rw [bareAfter?.eq_3]
      simp [hc]

/-- The two scanners call each other, so what holds for one is proved with the other. -/
theorem bare?_append_and (s t : List Char) :
    (∀ b, bare? s = some b → bare? (s ++ t) = (bare? t).map (b ++ ·)) ∧
      ∀ b, bareAfter? s = some b → bareAfter? (s ++ t) = (bare? t).map (b ++ ·) := by
  induction s with
  | nil =>
    refine ⟨fun b hb => ?_, fun b hb => nomatch hb⟩
    obtain rfl : [] = b := by simpa [bare?] using hb
    simp
  | cons c s ih =>
    rw [List.cons_append]
    by_cases hc : c = '\''
    · -- the two parts of the induction change places at a quote
      subst hc
      rw [bare?, bare?, bareAfter?_quote, bareAfter?_quote]
      exact ⟨ih.2, ih.1⟩
    · rw [bare?_cons hc, bare?_cons hc, bareAfter?_cons hc, bareAfter?_cons hc]
      refine ⟨fun b hb => ?_, ih.2⟩
      obtain ⟨b', hb', rfl⟩ := Option.map_eq_some_iff.1 hb
      rw [ih.1 b' hb', Option.map_map]
      rfl

/-- A text that ends outside literals does not reach into the one after it. -/
theorem bare?_append (hs : bare? s = some b) (t : List Char) :
    bare? (s ++ t) = (bare? t).map (b ++ ·) :=
  (bare?_append_and s t).1 b hs

theorem bare?_eq_self (hs : ∀ c ∈ s, c ≠ '\'') : bare? s = some s := by
  induction s with
  | nil => rfl
  | cons c s ih =>
    rw [List.forall_mem_cons] at hs
    rw [bare?_cons hs.1, ih hs.2, Option.map_some]

theorem bareAfter?_quoted (s rest : List Char) :
    bareAfter? (ColumnDefault.quoted s ++ rest) = bareAfter? rest := by
  induction s with
  | nil => rfl
  | cons c s ih =>
    by_cases hc : c = '\''
    · simp [ColumnDefault.quoted, hc, bareAfter?, ih]
    · simp [ColumnDefault.quoted, hc, bareAfter?_cons hc, ih]

/-- Nothing of a string shows outside its literal. -/
theorem bare?_literal (s : List Char) :
    bare? ('\'' :: ColumnDefault.quoted s ++ ['\'']) = some [] := by
  rw [List.cons_append, bare?, bareAfter?_quoted]
  rfl

/-! ### Parentheses -/

/-- The number of parentheses that are open after the text when `n` are open before it, unless it
closes one that is not open. -/
def level (n : Nat) : List Char → Option Nat
  | [] => some n
  | c :: cs =>
    if c = '(' then level (n + 1) cs
    else if c = ')' then
      match n with
      | 0 => none
      | n + 1 => level n cs
    else level n cs

theorem level_append (n : Nat) (s t : List Char) :
    level n (s ++ t) = (level n s).bind (level · t) := by
  induction s generalizing n with
  | nil => rfl
  | cons c s ih =>
    simp only [List.cons_append, level]
    split
    · exact ih _
    · split
      · cases n with
        | zero => rfl
        | succ n => exact ih n
      · exact ih n

theorem level_eq_self {n : Nat} (hs : ∀ c ∈ s, c ≠ '(' ∧ c ≠ ')') : level n s = some n := by
  induction s with
  | nil => rfl
  | cons c s ih =>
    rw [List.forall_mem_cons] at hs
    simp [level, hs.1.1, hs.1.2, ih hs.2]

/-- What closes all that it opens does so inside other parentheses as well. -/
theorem level_add {n m : Nat} (k : Nat) (h : level n s = some m) :
    level (n + k) s = some (m + k) := by
  induction s generalizing n with
  | nil =>
    obtain rfl : n = m := by simpa [level] using h
    rfl
  | cons c s ih =>
    simp only [level] at h ⊢
    split at h
    · rw [if_pos ‹_›, Nat.add_right_comm]
      exact ih h
    · rw [if_neg ‹_›]
      split at h
      · cases n with
        | zero => cases h
        | succ n =>
          rw [if_pos ‹_›, Nat.add_right_comm]
          exact ih h
      · rw [if_neg ‹_›]
        exact ih h

/-! ### Parts of statements -/

/-- Whether the character has no part in literals, parentheses and the end of statements. -/
def isPlain (c : Char) : Bool :=
  c != '\'' && c != '(' && c != ')' && c != ';'

theorem isPlain_iff : isPlain c = true ↔ c ≠ '\'' ∧ c ≠ '(' ∧ c ≠ ')' ∧ c ≠ ';' := by
  simp [isPlain, and_assoc]

/-- A part of a statement that ends outside literals, has no semicolon there, and takes the number
of open parentheses from `n` to `m`. -/
def Nests (n m : Nat) (text : String) : Prop :=
  ∃ b, bare? text.toList = some b ∧ level n b = some m ∧ ';' ∉ b

namespace Nests

variable {n k m : Nat} {u v : String}

theorem append (hu : Nests n k u) (hv : Nests k m v) : Nests n m (u ++ v) := by
  obtain ⟨b, hb, hlevel, hend⟩ := hu
  obtain ⟨b', hb', hlevel', hend'⟩ := hv
  refine ⟨b ++ b', ?_, ?_, ?_⟩
  · rw [String.toList_append, bare?_append hb, hb', Option.map_some]
  · rw [level_append, hlevel]
    exact hlevel'
  · simp [hend, hend']

theorem inside (k : Nat) (hu : Nests n m u) : Nests (n + k) (m + k) u := by
  obtain ⟨b, hb, hlevel, hend⟩ := hu
  exact ⟨b, hb, level_add k hlevel, hend⟩

theorem of_isPlain (h : ∀ c ∈ u.toList, isPlain c = true) : Nests n n u := by
  have hplain : ∀ c ∈ u.toList, c ≠ '\'' ∧ c ≠ '(' ∧ c ≠ ')' ∧ c ≠ ';' := fun c hc =>
    isPlain_iff.1 (h c hc)
  refine ⟨u.toList, bare?_eq_self fun c hc => (hplain c hc).1,
    level_eq_self fun c hc => ⟨(hplain c hc).2.1, (hplain c hc).2.2.1⟩, fun hc => ?_⟩
  exact (hplain _ hc).2.2.2 rfl

theorem of_all (h : u.toList.all isPlain = true) : Nests n n u :=
  of_isPlain (List.all_eq_true.1 h)

/-- A string between quotes is passed over. -/
theorem literal (s : String) :
    Nests n n ("'" ++ String.ofList (ColumnDefault.quoted s.toList) ++ "'") := by
  refine ⟨[], ?_, rfl, by simp⟩
  simpa using bare?_literal s.toList

/-- Parts with commas between them. -/
theorem intercalate {texts : List String} (h : ∀ text ∈ texts, Nests n n text) :
    Nests n n (String.intercalate ", " texts) := by
  induction texts with
  | nil => exact of_all rfl
  | cons text texts ih =>
    rw [List.forall_mem_cons] at h
    cases texts with
    | nil => simpa using h.1
    | cons text' texts =>
      rw [String.intercalate_cons_cons]
      exact (h.1.append (of_all (by decide))).append (ih h.2)

end Nests

/-! ### Statements -/

/-- The text is one statement: it ends outside literals in a semicolon, and there is no other one
outside literals. -/
def IsSingle (sql : String) : Prop :=
  ∃ front body, sql.toList = front ++ [';'] ∧ bare? front = some body ∧ ';' ∉ body

/-- Outside literals the parentheses of the text are balanced, and the first of them is closed just
before the semicolon at its end. -/
def IsEnclosed (sql : String) : Prop :=
  ∃ front head inner, sql.toList = front ++ [')', ';'] ∧
    bare? front = some (head ++ '(' :: inner) ∧ (∀ c ∈ head, c ≠ '(' ∧ c ≠ ')') ∧
    level 0 inner = some 0

/-- A statement may start with any part of a statement. -/
theorem Nests.isSingle_append {n m : Nat} {u v : String} (hu : Nests n m u) (hv : IsSingle v) :
    IsSingle (u ++ v) := by
  obtain ⟨b, hb, -, hend⟩ := hu
  obtain ⟨front, body, hv, hbody, hend'⟩ := hv
  refine ⟨u.toList ++ front, b ++ body, ?_, ?_, ?_⟩
  · rw [String.toList_append, hv, List.append_assoc]
  · rw [bare?_append hb, hbody, Option.map_some]
  · simp [hend, hend']

/-- A statement is enclosed if nothing before its first parenthesis `(` is in a literal and what
follows closes all that it opens. -/
theorem isEnclosed_of_nests {start inner : String} {head : List Char}
    (hstart : start.toList = head ++ ['('])
    (hhead : ∀ c ∈ head, isPlain c = true) (hinner : Nests 0 0 inner) :
    IsEnclosed (start ++ inner ++ ");") := by
  obtain ⟨b, hb, hlevel, -⟩ := hinner
  have hplain : ∀ c ∈ head, c ≠ '\'' ∧ c ≠ '(' ∧ c ≠ ')' ∧ c ≠ ';' := fun c hc =>
    isPlain_iff.1 (hhead c hc)
  have hopen : bare? start.toList = some (head ++ ['(']) := by
    rw [hstart, bare?_append (bare?_eq_self fun c hc => (hplain c hc).1)]
    rfl
  refine ⟨start.toList ++ inner.toList, head, b, by simp, ?_,
    fun c hc => ⟨(hplain c hc).2.1, (hplain c hc).2.2.1⟩, hlevel⟩
  rw [bare?_append hopen, hb]
  simp

end Sql

end Schemata
