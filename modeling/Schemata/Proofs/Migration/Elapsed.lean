import Mathlib.Order.Basic
import Schemata.Migration.Report

/-!
# Elapsed milliseconds

A duration is a number of nanoseconds, which its seconds and what is beyond them make up in one way.
Its milliseconds are computed in words of 128 bits, where nothing can overflow, and narrowed to 64
bits, where the largest word stands for all that does not fit.

* `Duration.total` — the nanoseconds, with `Duration.total_of_ofParts?`;
* `Duration.millis`, `Duration.toNat_wideMillis` — the milliseconds as a number, which is what the
  computation in wide words gives;
* `Duration.toNat_wordMillis` — narrowing them is a minimum;
* `Report.elapsed_is_exact_or_largest` — what a report shows of the time a migration took.
-/

namespace Schemata

namespace Duration

variable {d d' : Duration} {s : UInt64} {n : UInt32}

/-! ### Nanoseconds -/

/-- All nanoseconds of the duration. -/
def total (d : Duration) : Nat :=
  d.seconds.toNat * 1000000000 + d.nanos.toNat

theorem isSome_ofParts?_iff :
    (∃ d, ofParts? s n = some d) ↔ s.toNat + n.toNat / 1000000000 < UInt64.size := by
  unfold ofParts?
  split <;> simp_all

/-- Carrying whole seconds does not change the duration. -/
theorem total_of_ofParts? (h : ofParts? s n = some d) :
    d.total = s.toNat * 1000000000 + n.toNat := by
  unfold ofParts? at h
  split at h
  next hfits =>
    cases h
    have hcarry : (UInt64.ofNat (n.toNat / 1000000000)).toNat = n.toNat / 1000000000 := by
      rw [UInt64.toNat_ofNat']
      exact Nat.mod_eq_of_lt (Nat.lt_of_le_of_lt (Nat.le_add_left _ _) hfits)
    have hseconds : (s + UInt64.ofNat (n.toNat / 1000000000)).toNat =
        s.toNat + n.toNat / 1000000000 := by
      rw [UInt64.toNat_add, hcarry]
      exact Nat.mod_eq_of_lt hfits
    simp only [total, hseconds, UInt32.toNat_mod, UInt32.reduceToNat]
    omega
  next => cases h

/-- Durations are in the order of their seconds, and then of what is beyond them. -/
theorem total_le_total_iff : d.total ≤ d'.total ↔
    d.seconds < d'.seconds ∨ d.seconds = d'.seconds ∧ d.nanos ≤ d'.nanos := by
  have hnanos := d.nanos_lt
  have hnanos' := d'.nanos_lt
  rw [total, total, UInt64.lt_iff_toNat_lt, ← UInt64.toNat_inj, UInt32.le_iff_toNat_le]
  omega

/-! ### Milliseconds -/

/-- The whole milliseconds as a number. -/
def millis (d : Duration) : Nat :=
  d.seconds.toNat * 1000 + d.nanos.toNat / 1000000

theorem millis_eq (d : Duration) : d.millis = d.total / 1000000 := by
  rw [millis, total]
  omega

/-- Nothing overflows in words of 128 bits. -/
theorem toNat_wideMillis (d : Duration) : d.wideMillis.toNat = d.millis := by
  have hseconds := d.seconds.toNat_lt
  have hnanos := d.nanos_lt
  have hwide : d.seconds.toNat * 1000 + d.nanos.toNat / 1000000 < 2 ^ 128 := by omega
  have hthousand : (1000 : BitVec 128).toNat = 1000 := rfl
  have hmillion : (1000000 : UInt32).toNat = 1000000 := rfl
  rw [wideMillis, BitVec.toNat_add, BitVec.toNat_mul, BitVec.toNat_setWidth, BitVec.toNat_setWidth,
    UInt64.toNat_toBitVec, UInt32.toNat_toBitVec, UInt32.toNat_div, hthousand, hmillion, millis]
  omega

/-- Narrowing keeps what fits. -/
theorem toNat_wordMillis (d : Duration) :
    d.wordMillis.toNat = min (UInt64.size - 1) d.millis := by
  have hsize : UInt64.size = 2 ^ 64 := rfl
  unfold wordMillis
  split
  next h =>
    rw [UInt64.toNat_ofBitVec, BitVec.toNat_setWidth, toNat_wideMillis]
    rw [toNat_wideMillis] at h
    omega
  next h =>
    rw [UInt64.toNat_ofNat']
    rw [toNat_wideMillis] at h
    omega

theorem wordMillis_le (h : d.total ≤ d'.total) : d.wordMillis ≤ d'.wordMillis := by
  have hmillis : d.millis ≤ d'.millis := by
    rw [millis_eq, millis_eq]
    exact Nat.div_le_div_right h
  rw [UInt64.le_iff_toNat_le, toNat_wordMillis, toNat_wordMillis]
  omega

end Duration

/-! ### Reports -/

/-- The field of a record. -/
def Json.Value.field? (name : String) : Json.Value → Option Json.Value
  | .record fields => fields.lookup name
  | _ => none

namespace Report

open Duration

theorem field?_elapsed (r : Report) :
    r.toJson.field? "elapsed_ms" = some (.number r.elapsed.wordMillis.toNat) := rfl

/-- **Elapsed milliseconds are exact or the largest word.**  Seconds and nanoseconds make a duration
unless the carried seconds do not fit their word.  In words of 128 bits nothing overflows, and a
report shows the whole milliseconds, or the largest word of 64 bits if they do not fit it.  So a
longer duration never shows less, less than a millisecond is lost where they fit, and another number
than theirs is shown exactly if they do not. -/
theorem elapsed_is_exact_or_largest (s : UInt64) (n : UInt32) :
    ((∃ d, ofParts? s n = some d) ↔ s.toNat + n.toNat / 1000000000 < UInt64.size) ∧
    (∀ d, ofParts? s n = some d →
      d.total = s.toNat * 1000000000 + n.toNat ∧
      d.wideMillis.toNat = (s.toNat * 1000000000 + n.toNat) / 1000000 ∧
      ∀ r : Report, r.elapsed = d → r.toJson.field? "elapsed_ms" =
        some (.number (min (UInt64.size - 1) ((s.toNat * 1000000000 + n.toNat) / 1000000)))) ∧
    ∀ d : Duration,
      (∀ d' : Duration, (d.seconds < d'.seconds ∨ d.seconds = d'.seconds ∧ d.nanos ≤ d'.nanos) →
        d.wordMillis ≤ d'.wordMillis) ∧
      (d.total / 1000000 < UInt64.size → d.wordMillis.toNat * 1000000 ≤ d.total ∧
        d.total < (d.wordMillis.toNat + 1) * 1000000) ∧
      (d.wordMillis.toNat ≠ d.total / 1000000 ↔ UInt64.size ≤ d.total / 1000000) := by
  refine ⟨isSome_ofParts?_iff, fun d h => ?_, fun d => ⟨fun d' h => ?_, ?_⟩⟩
  · have htotal := total_of_ofParts? h
    refine ⟨htotal, by rw [toNat_wideMillis, millis_eq, htotal], ?_⟩
    rintro r rfl
    rw [field?_elapsed, toNat_wordMillis, millis_eq, htotal]
  · exact wordMillis_le (total_le_total_iff.2 h)
  · have hsize : UInt64.size = 2 ^ 64 := rfl
    rw [toNat_wordMillis, millis_eq]
    omega

/-- A second is carried, and then the milliseconds do not fit by one. -/
theorem carried_second_saturates :
    ofParts? 18446744073709550 1616000000 =
      some { seconds := 18446744073709551, nanos := 616000000 } ∧
    (toJson { name := "m1_users", direction := .up, sql := "SELECT 1;"
              elapsed := { seconds := 18446744073709551, nanos := 616000000 } }).field?
      "elapsed_ms" = some (.number 18446744073709551615) := by
  have hparts : ofParts? 18446744073709550 1616000000 =
      some { seconds := 18446744073709551, nanos := 616000000 } := rfl
  obtain ⟨-, hsome, -⟩ := elapsed_is_exact_or_largest 18446744073709550 1616000000
  obtain ⟨-, -, hreport⟩ := hsome _ hparts
  have hlargest : min (UInt64.size - 1) (((18446744073709550 : UInt64).toNat * 1000000000 +
      (1616000000 : UInt32).toNat) / 1000000) = 18446744073709551615 := by decide
  rw [hlargest] at hreport
  exact ⟨hparts, hreport _ rfl⟩

end Report

end Schemata
