import Mathlib.Data.String.Basic

/-!
# The order of bytes

Texts are compared character by character, by code points.  Their bytes in UTF-8 are in the same
order: a longer sequence of bytes starts with a larger byte, and in sequences of one length the
bits of the code point come in order, the highest first.

* `Utf8.bytes` — the bytes of a text;
* `Utf8.sequence` — the bytes of one character;
* `Utf8.lt_iff_bytes_lt` — the two orders are one.
-/

namespace Schemata

namespace Utf8

/-- The bytes of a text. -/
def bytes (s : String) : List UInt8 :=
  s.toUTF8.data.toList

/-! ### Characters -/

/-- How many bytes come after the first one of the character with the code point. -/
def extent (n : Nat) : Nat :=
  if n ≤ 127 then 0 else if n ≤ 2047 then 1 else if n ≤ 65535 then 2 else 3

/-- How many values the first byte has when `k` bytes come after it. -/
def room : Nat → Nat
  | 0 => 128
  | 1 => 32
  | 2 => 16
  | _ => 8

/-- The least value of a first byte with `k` bytes after it. -/
def mark : Nat → Nat
  | 0 => 0
  | 1 => 192
  | 2 => 224
  | _ => 240

/-- The last `k` bytes of a code point, with six bits in each. -/
def continuation : Nat → Nat → List UInt8
  | 0, _ => []
  | k + 1, n => UInt8.ofNat (n / 64 ^ k % 64 + 128) :: continuation k n

/-- The bytes of a code point when `k` of them come after the first. -/
def sequence (k n : Nat) : List UInt8 :=
  UInt8.ofNat (n / 64 ^ k % room k + mark k) :: continuation k n

variable {k l m n : Nat}

theorem room_add_mark_le_mark (hl : l ≤ 3) (h : k < l) : room k + mark k ≤ mark l := by
  have hall : ∀ l ≤ 3, ∀ k < l, room k + mark k ≤ mark l := by decide
  exact hall l hl k h

theorem room_add_mark_le (hk : k ≤ 3) : room k + mark k ≤ 256 := by
  have hall : ∀ k ≤ 3, room k + mark k ≤ 256 := by decide
  exact hall k hk

theorem room_pos (k : Nat) : 0 < room k := by
  unfold room
  split <;> decide

theorem extent_le (n : Nat) : extent n ≤ 3 := by
  unfold extent
  split_ifs <;> omega

theorem extent_mono (h : m ≤ n) : extent m ≤ extent n := by
  unfold extent
  split_ifs <;> omega

theorem lt_of_isScalar (h : n < 0x110000) : n < 64 ^ extent n * room (extent n) := by
  unfold extent
  split_ifs <;> simp only [room] <;> omega

theorem utf8EncodeChar_eq_sequence (c : Char) :
    String.utf8EncodeChar c = sequence (extent c.toNat) c.toNat := by
  rw [String.utf8EncodeChar]
  simp only [Char.toNat_val, extent]
  split_ifs with h
  · simp [sequence, room, mark, continuation, Nat.mod_eq_of_lt (Nat.lt_succ_of_le h)]
  · simp [sequence, room, mark, continuation]
  · simp [sequence, room, mark, continuation]
  · simp [sequence, room, mark, continuation]

/-! ### Comparison -/

theorem ofNat_lt_ofNat (hn : n < 256) (h : m < n) : UInt8.ofNat m < UInt8.ofNat n := by
  simp only [UInt8.lt_iff_toNat_lt, UInt8.toNat_ofNat']
  omega

theorem continuation_lt (h : m % 64 ^ k < n % 64 ^ k) (s t : List UInt8) :
    continuation k m ++ s < continuation k n ++ t := by
  induction k with
  | zero => simp [Nat.mod_one] at h
  | succ k ih =>
    simp only [continuation, List.cons_append, List.cons_lt_cons_iff]
    rw [Nat.pow_succ] at h
    have hle : m / 64 ^ k % 64 ≤ n / 64 ^ k % 64 := by
      rw [← Nat.mod_mul_right_div_self, ← Nat.mod_mul_right_div_self]
      exact Nat.div_le_div_right h.le
    rcases hle.lt_or_eq with hlt | heq
    · exact .inl (ofNat_lt_ofNat (by omega) (by omega))
    · rw [Nat.mod_mul, Nat.mod_mul, heq] at h
      exact .inr ⟨by rw [heq], ih (by omega)⟩

/-- Of two sequences of one length that of the larger code point comes later. -/
theorem sequence_lt_sequence (hk : k ≤ 3) (h : m < n) (hn : n < 64 ^ k * room k)
    (s t : List UInt8) : sequence k m ++ s < sequence k n ++ t := by
  have hroom : n / 64 ^ k < room k := Nat.div_lt_of_lt_mul hn
  have hle : m / 64 ^ k ≤ n / 64 ^ k := Nat.div_le_div_right h.le
  have hbyte := room_add_mark_le hk
  simp only [sequence, List.cons_append, List.cons_lt_cons_iff, Nat.mod_eq_of_lt hroom,
    Nat.mod_eq_of_lt (hle.trans_lt hroom)]
  rcases hle.lt_or_eq with hlt | heq
  · exact .inl (ofNat_lt_ofNat (by omega) (by omega))
  · have hm := Nat.div_add_mod m (64 ^ k)
    have hn := Nat.div_add_mod n (64 ^ k)
    rw [heq] at hm ⊢
    exact .inr ⟨rfl, continuation_lt (by omega) s t⟩

/-- A longer sequence comes later, whatever the code points are. -/
theorem sequence_lt_sequence_of_lt (hl : l ≤ 3) (h : k < l) (m n : Nat) (s t : List UInt8) :
    sequence k m ++ s < sequence l n ++ t := by
  have hmark := room_add_mark_le_mark hl h
  have hbyte := room_add_mark_le hl
  have hm := Nat.mod_lt (m / 64 ^ k) (room_pos k)
  have hn := Nat.mod_lt (n / 64 ^ l) (room_pos l)
  simp only [sequence, List.cons_append, List.cons_lt_cons_iff]
  exact .inl (ofNat_lt_ofNat (by omega) (by omega))

theorem utf8EncodeChar_lt {c d : Char} (h : c < d) (s t : List UInt8) :
    String.utf8EncodeChar c ++ s < String.utf8EncodeChar d ++ t := by
  have hcd : c.toNat < d.toNat := h
  have hd : d.toNat < 0x110000 := by
    rcases d.valid with hd | hd
    · exact Nat.lt_trans hd (by decide)
    · exact hd.2
  rw [utf8EncodeChar_eq_sequence, utf8EncodeChar_eq_sequence]
  rcases (extent_mono hcd.le).lt_or_eq with hlt | heq
  · exact sequence_lt_sequence_of_lt (extent_le _) hlt _ _ s t
  · rw [heq]
    exact sequence_lt_sequence (extent_le _) hcd (lt_of_isScalar hd) s t

/-! ### Texts -/

theorem bytes_eq_flatMap (s : String) : bytes s = s.toList.flatMap String.utf8EncodeChar := by
  conv_lhs => rw [← String.ofList_toList (s := s)]
  exact List.toList_data_toByteArray

theorem flatMap_utf8EncodeChar_lt {cs ds : List Char} (h : cs < ds) :
    cs.flatMap String.utf8EncodeChar < ds.flatMap String.utf8EncodeChar := by
  induction cs generalizing ds with
  | nil =>
    cases ds with
    | nil => exact absurd h (List.not_lt_nil _)
    | cons d ds =>
      rw [List.flatMap_cons, utf8EncodeChar_eq_sequence]
      exact List.nil_lt_cons _ _
  | cons c cs ih =>
    cases ds with
    | nil => exact absurd h (List.not_lt_nil _)
    | cons d ds =>
      rw [List.flatMap_cons, List.flatMap_cons]
      rcases List.cons_lt_cons_iff.1 h with hcd | ⟨rfl, hrest⟩
      · exact utf8EncodeChar_lt hcd _ _
      · exact List.append_left_lt (ih hrest)

theorem bytes_lt_bytes {a b : String} (h : a < b) : bytes a < bytes b := by
  rw [bytes_eq_flatMap, bytes_eq_flatMap]
  exact flatMap_utf8EncodeChar_lt (String.lt_iff_toList_lt.1 h)

/-- Texts are in the order of their bytes. -/
theorem lt_iff_bytes_lt {a b : String} : a < b ↔ bytes a < bytes b := by
  refine ⟨bytes_lt_bytes, fun h => ?_⟩
  rcases lt_trichotomy a b with hab | rfl | hba
  · exact hab
  · exact absurd h (List.lt_irrefl _)
  · exact absurd (bytes_lt_bytes hba) (List.lt_asymm h)

end Utf8

end Schemata
