import Schemata.Migration.Basic

/-!
# Reports

A report says what a migration did in a run and how long it took.

* `Duration` — seconds and nanoseconds in machine words, with whole seconds carried;
* `Duration.wideMillis` — whole milliseconds in a word of 128 bits;
* `Duration.wordMillis` — the same narrowed to 64 bits, where the largest word stands for more;
* `Report.toJson` — a report as a JSON document.
-/

namespace Schemata

/-- A length of time. -/
structure Duration where
  /-- Whole seconds. -/
  seconds : UInt64
  /-- Nanoseconds beyond the whole seconds. -/
  nanos : UInt32
  /-- There is no further whole second. -/
  nanos_lt : nanos.toNat < 1000000000 := by decide

namespace Duration

/-- No time at all. -/
def zero : Duration := { seconds := 0, nanos := 0 }

/-- The sum of seconds and nanoseconds, unless the seconds overflow. -/
def ofParts? (seconds : UInt64) (nanos : UInt32) : Option Duration :=
  if seconds.toNat + nanos.toNat / 1000000000 < UInt64.size then
    some {
      seconds := seconds + UInt64.ofNat (nanos.toNat / 1000000000)
      nanos := nanos % 1000000000
      nanos_lt := by
        rw [UInt32.toNat_mod]
        exact Nat.mod_lt _ (by decide) }
  else none

/-- The whole milliseconds as a word of 128 bits. -/
def wideMillis (d : Duration) : BitVec 128 :=
  d.seconds.toBitVec.setWidth 128 * 1000 + (d.nanos / 1000000).toBitVec.setWidth 128

/-- The whole milliseconds as a word of 64 bits, the largest one if they do not fit. -/
def wordMillis (d : Duration) : UInt64 :=
  if d.wideMillis.toNat < UInt64.size then .ofBitVec (d.wideMillis.setWidth 64)
  else .ofNat (UInt64.size - 1)

end Duration

/-- What a migration did in a run. -/
structure Report where
  /-- The name of the migration. -/
  name : String
  /-- Which way it went. -/
  direction : Direction
  /-- Its statement. -/
  sql : String
  /-- The time it took, which is zero where nobody measures it. -/
  elapsed : Duration := .zero

namespace Report

/-- The report as a JSON document. -/
def toJson (r : Report) : Json.Value :=
  .record [("name", .text r.name), ("direction", .text r.direction.name), ("sql", .text r.sql),
    ("elapsed_ms", .number r.elapsed.wordMillis.toNat)]

end Report

end Schemata
