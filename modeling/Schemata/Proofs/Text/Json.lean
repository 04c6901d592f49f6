import Schemata.Text.Json

/-!
# JSON strings are read back

The writer of JSON strings escapes what the reader would take for something else: the quote, the
backslash and the control characters.  So the reader finds the end of a string where the writer put
it, and the string is the one that was written.

* `Json.decode?_escape`, `Json.decode?_control`, `Json.decode?_plain` — the three ways in which a
  character is written;
* `Json.decode?_encodeChar`, `Json.decode?_encode` — one character, and all up to the closing quote;
* `Json.readString?_quote` — a text as a whole.
-/

namespace Schemata

namespace Json

variable {c e : Char}

/-! ### Characters -/

/-- An escape of one letter is read as the character that it stands for. -/
theorem decode?_escape (hc : c ≠ 'u') (he : unescape? c = some e) (rest : List Char) :
    decode? ('\\' :: c :: rest) = (decode? rest).map fun (cs, r) => (e :: cs, r) := by
  rw [decode?.eq_4 c rest fun _ _ _ _ _ h _ => hc h, he]

theorem hexValue4?_hexDigit {n : Nat} (h : n < 0x20) :
    hexValue4? '0' '0' (hexDigit (n / 16)) (hexDigit (n % 16)) = some n := by
  have hall : ∀ n < 0x20,
      hexValue4? '0' '0' (hexDigit (n / 16)) (hexDigit (n % 16)) = some n := by decide
  exact hall n h

/-- A control character is read from its number. -/
theorem decode?_control (hc : c.toNat < 0x20) (rest : List Char) :
    decode? ('\\' :: 'u' :: '0' :: '0' :: hexDigit (c.toNat / 16) :: hexDigit (c.toNat % 16) ::
      rest) = (decode? rest).map fun (cs, r) => (c :: cs, r) := by
  have hlow : ¬ (0xDC00 ≤ c.toNat ∧ c.toNat ≤ 0xDFFF) := by omega
  have hhigh : ¬ (0xD800 ≤ c.toNat ∧ c.toNat ≤ 0xDBFF) := by omega
  simp only [decode?, hexValue4?_hexDigit hc, if_neg hlow, if_neg hhigh, Char.ofNat_toNat]

theorem decode?_plain (hquote : c ≠ '"') (hslash : c ≠ '\\') (hc : ¬ c.toNat < 0x20)
    (rest : List Char) :
    decode? (c :: rest) = (decode? rest).map fun (cs, r) => (c :: cs, r) := by
  rw [decode?.eq_5 c rest hquote (fun _ _ _ _ _ h _ => hslash h) fun _ _ h _ => hslash h,
    if_neg (not_or.2 ⟨hc, hslash⟩)]

/-- A character is read back in front of anything. -/
theorem decode?_encodeChar (c : Char) (rest : List Char) :
    decode? (encodeChar c ++ rest) = (decode? rest).map fun (cs, r) => (c :: cs, r) := by
  by_cases hquote : c = '"'
  · subst hquote
    exact decode?_escape (by decide) rfl rest
  by_cases hslash : c = '\\'
  · subst hslash
    exact decode?_escape (by decide) rfl rest
  rw [encodeChar, if_neg hquote, if_neg hslash]
  by_cases hcontrol : c.toNat < 0x20
  · rw [if_pos hcontrol]
    -- five of the control characters have an escape of one letter
    have hnamed {l e : Char} (hc : c.toNat = e.toNat) (hl : l ≠ 'u') (he : unescape? l = some e) :
        decode? ('\\' :: l :: rest) = (decode? rest).map fun (cs, r) => (c :: cs, r) :=
      decode?_escape hl (he.trans (congrArg some (Char.toNat_inj.1 hc.symm))) rest
    split
    next hc => exact hnamed (e := '\x08') hc (by decide) rfl
    split
    next hc => exact hnamed (e := '\t') hc (by decide) rfl
    split
    next hc => exact hnamed (e := '\n') hc (by decide) rfl
    split
    next hc => exact hnamed (e := '\x0c') hc (by decide) rfl
    split
    next hc => exact hnamed (e := '\r') hc (by decide) rfl
    exact decode?_control hcontrol rest
  · rw [if_neg hcontrol]
    exact decode?_plain hquote hslash hcontrol rest

/-! ### Texts -/

/-- Reading stops at the closing quote. -/
theorem decode?_encode (cs rest : List Char) :
    decode? (encode cs ++ '"' :: rest) = some (cs, rest) := by
  induction cs with
  | nil => rw [encode, List.flatMap_nil, List.nil_append, decode?]
  | cons c cs ih =>
    rw [encode, List.flatMap_cons, List.append_assoc, decode?_encodeChar, ← encode, ih]
    rfl

theorem readString?_quote (s : String) : readString? (quote s) = some s := by
  have htext : (quote s).toList = '"' :: (encode s.toList ++ '"' :: []) := by simp [quote]
  rw [readString?, htext, List.dropWhile_cons_of_neg (by decide)]
  simp [decode?_encode]

end Json

end Schemata
