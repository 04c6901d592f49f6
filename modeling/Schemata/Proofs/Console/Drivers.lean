import Schemata.Console.Run
import Schemata.Proofs.Text.Padding

/-!
# Drivers and their warnings

The dialect depends on the core of a driver only, whatever its case and its padding are.  The
warning about unknown drivers looks at the case as well as the core does, but not at the padding:
`mysql` is known, and between blanks it is not.

* `Invocation.dialect_eq` — the dialect by the core of the driver;
* `Invocation.Warns`, `Invocation.warns_iff` — which drivers are warned about;
* `Invocation.warning_overlooks_padding` — drivers in another case, between blanks.
-/

namespace Schemata

namespace Invocation

variable {i : Invocation}

/-- The driver is warned about. -/
def Warns (i : Invocation) : Prop :=
  .unknownDriver i.driver ∈ i.driverEvents

theorem dialect_eq (i : Invocation) :
    i.dialect = if core i.driver = "pgsql".toList then .postgres else .generic := by
  have hcore : Ascii.sameLetters (trim i.driver) "pgsql" = true ↔ core i.driver = "pgsql".toList :=
    Ascii.sameLetters_iff
  simp only [dialect, Dialect.ofDriver, hcore]

theorem dialect_eq_generic_iff : i.dialect = .generic ↔ core i.driver ≠ "pgsql".toList := by
  rw [dialect_eq]
  split <;> simp_all

/-- Without padding a driver is compared as its core is. -/
theorem sameLetters_mysql_iff {driver : String} : Ascii.sameLetters driver "mysql" = true ↔
    core driver = "mysql".toList ∧ trim driver = driver := by
  rw [Ascii.sameLetters_iff, ← lower_eq_core_iff]
  have hmysql : Ascii.lower "mysql" = "mysql".toList := by decide
  constructor
  · intro h
    have hcore : core driver = "mysql".toList := by
      rw [core_eq_trimChars_lower, h]
      decide
    exact ⟨hcore, by rw [h, hcore, hmysql]⟩
  · rintro ⟨hcore, hlower⟩
    rw [hlower, hcore, hmysql]

/-- No driver is both. -/
theorem core_ne_of_mysql {driver : String} (h : core driver = "mysql".toList) :
    core driver ≠ "pgsql".toList := by
  rw [h]
  decide

theorem warns_iff : i.Warns ↔ core i.driver ≠ "pgsql".toList ∧ core i.driver ≠ "mysql".toList ∨
    core i.driver = "mysql".toList ∧ trim i.driver ≠ i.driver := by
  have hcondition : i.Warns ↔
      i.dialect = .generic ∧ ¬ Ascii.sameLetters i.driver "mysql" = true := by
    rw [Warns, driverEvents]
    split
    next h => simpa using h
    next h => simpa using h
  have hboth : core i.driver = "mysql".toList → core i.driver ≠ "pgsql".toList := core_ne_of_mysql
  rw [hcondition, dialect_eq_generic_iff, sameLetters_mysql_iff]
  grind

/-- **Warnings overlook padding.**  The dialect is that of the core of the driver, so it is the same
in every case and between any blanks.  A warning comes for the drivers whose core is neither `pgsql`
nor `mysql`, and for `mysql` between blanks besides.  So of two drivers, the second one in another
case and between blanks, both are warned about or neither is, unless the core is `mysql` and just
one of them is padded. -/
theorem warning_overlooks_padding (i : Invocation) :
    (i.dialect = if core i.driver = "pgsql".toList then .postgres else .generic) ∧
    (i.driverEvents = [] ∨ i.driverEvents = [.unknownDriver i.driver]) ∧
    (i.Warns ↔ core i.driver ≠ "pgsql".toList ∧ core i.driver ≠ "mysql".toList ∨
      core i.driver = "mysql".toList ∧ trim i.driver ≠ i.driver) ∧
    ∀ i' : Invocation, Respells i.driver i'.driver → i'.dialect = i.dialect ∧
      ((i'.Warns ↔ i.Warns) ↔ (core i.driver = "mysql".toList →
        (trim i'.driver = i'.driver ↔ trim i.driver = i.driver))) := by
  refine ⟨dialect_eq i, ?_, warns_iff, fun i' h => ⟨?_, ?_⟩⟩
  · rw [driverEvents]
    split
    · exact .inr rfl
    · exact .inl rfl
  · rw [dialect_eq, dialect_eq, core_eq_of_respells h]
  · rw [warns_iff, warns_iff, core_eq_of_respells h]
    have hboth : core i.driver = "mysql".toList → core i.driver ≠ "pgsql".toList :=
      core_ne_of_mysql
    grind

/-- An invocation that seeds, with the given driver. -/
def seeding (driver : String) : Invocation where
  driver := driver
  migrationsDir := defaultMigrationsDir
  strict := false
  verbose := false
  command := some .seed

/-- A driver that is not known is warned about between blanks as well. -/
theorem padded_sqlite_warns : Respells "sqlite" "\u3000SQLite\n" ∧
    (seeding "\u3000SQLite\n").dialect = (seeding "sqlite").dialect ∧
    (seeding "sqlite").Warns ∧ (seeding "\u3000SQLite\n").Warns := by
  have hrespells : Respells "sqlite" "\u3000SQLite\n" :=
    ⟨"\u3000", "SQLite", "\n", by decide, by decide, by simp [isBlank], by simp [isBlank]⟩
  obtain ⟨-, -, hwarns, htwo⟩ := warning_overlooks_padding (seeding "sqlite")
  obtain ⟨hdialect, hsame⟩ := htwo (seeding "\u3000SQLite\n") hrespells
  have hsqlite : (seeding "sqlite").Warns := hwarns.2 (.inl (by decide))
  exact ⟨hrespells, hdialect, hsqlite, (hsame.2 fun h => absurd h (by decide)).2 hsqlite⟩

/-- Between blanks `mysql` is warned about, and without them it is not. -/
theorem padded_mysql_warns : Respells "mysql" " mysql" ∧ core " mysql" = "mysql".toList ∧
    (seeding " mysql").dialect = (seeding "mysql").dialect ∧
    (seeding "mysql").driverEvents = [] ∧
    (seeding " mysql").driverEvents = [.unknownDriver " mysql"] :=
  ⟨⟨" ", "mysql", "", by decide, by decide, by simp [isBlank], by simp⟩, by decide, by decide,
    by decide, by decide⟩

end Invocation

end Schemata
