import Schemata.Proofs.Migration.Registration
import Schemata.Proofs.Skeleton.Usable
import Schemata.Proofs.Text.Numerals
import Schemata.Proofs.Text.Reader

/-!
# The order of creation

The stem of a migration has its time before its name, with an underscore between them, which no
numeral contains.  So a stem can be read back; and as numerals of one length are in the order of
their numbers, stems are in the order of the times, and those of one time in the order of the names.
A registry visits its migrations in this order, in whatever order they were registered.

* `Skeleton.stem_eq_stem_iff`, `Skeleton.stem_lt_stem_iff` — two stems;
* `Creation` — a migration that is registered under the stem of its skeleton;
* `Creation.exists_ordered` — what a registry makes of creations in any order;
* `Creation.agenda_eq` — what a run goes through then;
* `Creation.stems_ascend_as_created` — all of this, for migrations and rollbacks.
-/

namespace Schemata

/-! ### Stems -/

namespace Skeleton

variable {n n' : List Char} {t t' : Int}

theorem toList_stem (n : List Char) (t : Int) :
    (stem .migration n t).toList = 'm' :: ((Decimal.ofInt t).toList ++ '_' :: n) := by
  simp [stem]

/-- A stem tells its time and its name. -/
theorem stem_eq_stem_iff : stem .migration n t = stem .migration n' t' ↔ t = t' ∧ n = n' := by
  refine ⟨fun h => ?_, fun ⟨ht, hn⟩ => by rw [ht, hn]⟩
  rw [← String.toList_inj, toList_stem, toList_stem] at h
  have hstop (n : List Char) : Reader.Stops Char.isDigit ('_' :: n) := Reader.stops_cons.2 rfl
  obtain ⟨ht, hrest⟩ := Reader.Reads.unique (Reader.reads_integer (hstop n))
    (Reader.reads_integer (hstop n')) (List.cons.inj h).2
  exact ⟨ht, (List.cons.inj hrest).2⟩

theorem toList_ofInt_of_nonneg (h : 0 ≤ t) :
    (Decimal.ofInt t).toList = Decimal.digits t.toNat := by
  obtain ⟨k, rfl⟩ := Int.eq_ofNat_of_zero_le h
  exact Reader.toList_ofNat k

/-- Stems with times of one length are in the order of the times, and then of the names. -/
theorem stem_lt_stem_iff (ht : 0 ≤ t) (ht' : 0 ≤ t')
    (h : (Decimal.digits t.toNat).length = (Decimal.digits t'.toNat).length) :
    stem .migration n t < stem .migration n' t' ↔ t < t' ∨ t = t' ∧ n < n' := by
  have hlt : t.toNat < t'.toNat ↔ t < t' := by omega
  have heq : t.toNat = t'.toNat ↔ t = t' := by omega
  rw [String.lt_iff_toList_lt, toList_stem, toList_stem, List.cons_lt_cons_self,
    toList_ofInt_of_nonneg ht, toList_ofInt_of_nonneg ht', Decimal.append_lt_append_iff h,
    Decimal.digits_lt_digits_iff h, Decimal.digits_inj, hlt, heq, List.cons_lt_cons_self]

end Skeleton

/-! ### Creations -/

/-- A migration under the stem of the skeleton that was made for it. -/
structure Creation where
  /-- The name that the user gave. -/
  given : String
  /-- The time in seconds. -/
  seconds : Int
  /-- The normal form of the name. -/
  normal : List Char
  /-- The name has this normal form. -/
  usable : SkeletonName.normalize? given.toList = some normal
  /-- The migration. -/
  migration : Migration

namespace Creation

/-- The skeleton that was made. -/
def skeleton (c : Creation) : Skeleton :=
  .ofName .migration c.normal c.seconds

/-- The name under which the migration is registered. -/
def stem (c : Creation) : String :=
  c.skeleton.fileStem

/-- What is registered. -/
def entry (c : Creation) : String × Migration :=
  (c.stem, c.migration)

/-- What a run makes of it. -/
def item (mode : Mode) (direction : Direction) (c : Creation) : Item :=
  .ofEntry mode direction c.entry

/-- The time is not before the epoch, and its numeral has `k` digits. -/
def HasDigits (k : Nat) (c : Creation) : Prop :=
  0 ≤ c.seconds ∧ (Decimal.digits c.seconds.toNat).length = k

/-- The first one was made earlier, or at the same time and its name has the lesser bytes. -/
def Precedes (c c' : Creation) : Prop :=
  c.seconds < c'.seconds ∨ c.seconds = c'.seconds ∧
    Utf8.bytes (String.ofList c.normal) < Utf8.bytes (String.ofList c'.normal)

variable {c c' : Creation} {k : Nat} {calls : List Creation}

theorem render_given (c : Creation) :
    Skeleton.render .migration c.given c.seconds = .ok c.skeleton :=
  Skeleton.render_eq_ok_iff.2 ⟨c.normal, c.usable, rfl⟩

theorem stem_eq_iff : c.stem = c'.stem ↔ c.seconds = c'.seconds ∧ c.normal = c'.normal :=
  Skeleton.stem_eq_stem_iff

theorem stem_lt_iff (h : c.HasDigits k) (h' : c'.HasDigits k) :
    c.stem < c'.stem ↔ c.Precedes c' := by
  have hstem : c.stem < c'.stem ↔ _ :=
    Skeleton.stem_lt_stem_iff h.1 h'.1 (h.2.trans h'.2.symm)
  rw [hstem, Precedes, ← Utf8.lt_iff_bytes_lt, String.lt_iff_toList_lt, String.toList_ofList,
    String.toList_ofList]

theorem Precedes.ne (h : c.Precedes c') : c ≠ c' := by
  rintro rfl
  rcases h with htime | ⟨-, hname⟩
  · exact Int.lt_irrefl _ htime
  · exact List.lt_irrefl _ hname

/-! ### Registries of creations -/

theorem map_fst_entry (calls : List Creation) :
    (calls.map entry).map Prod.fst = calls.map stem := by
  simp [entry, Function.comp_def]

/-- Entries that come from creations are those of a list of creations. -/
theorem exists_map_entry {entries : List (String × Migration)}
    (h : ∀ e ∈ entries, e ∈ calls.map entry) :
    ∃ ordered : List Creation, ordered.map entry = entries ∧ ∀ c ∈ ordered, c ∈ calls := by
  induction entries with
  | nil => exact ⟨[], rfl, by simp⟩
  | cons e entries ih =>
    rw [List.forall_mem_cons] at h
    obtain ⟨c, hc, rfl⟩ := List.mem_map.1 h.1
    obtain ⟨ordered, rfl, hordered⟩ := ih h.2
    exact ⟨c :: ordered, rfl, List.forall_mem_cons.2 ⟨hc, hordered⟩⟩

/-- A registry has one creation for each stem, and these in the order of creation. -/
theorem exists_ordered (h : ∀ c ∈ calls, c.HasDigits k) :
    ∃ ordered : List Creation, ordered.map entry = (Registry.ofList (calls.map entry)).entries ∧
      ordered.Pairwise Precedes ∧ (∀ c ∈ ordered, c ∈ calls) ∧
      ∀ c ∈ calls, ∃ c' ∈ ordered, c'.stem = c.stem := by
  have hsource : ∀ e ∈ (Registry.ofList (calls.map entry)).entries, e ∈ calls.map entry :=
    fun _ => Registry.mem_of_mem_entries_ofList
  obtain ⟨ordered, hentries, hmem⟩ := exists_map_entry hsource
  refine ⟨ordered, hentries, ?_, hmem, fun c hc => ?_⟩
  · have hascending := (Registry.ofList (calls.map entry)).ascending
    rw [← hentries, List.pairwise_map] at hascending
    exact hascending.imp_of_mem fun hc hc' =>
      (stem_lt_iff (h _ (hmem _ hc)) (h _ (hmem _ hc'))).1
  · have hname : c.stem ∈ (Registry.ofList (calls.map entry)).names := by
      rw [Registry.mem_names_ofList, map_fst_entry]
      exact List.mem_map_of_mem hc
    rw [Registry.names, ← hentries, map_fst_entry] at hname
    exact List.mem_map.1 hname

/-- Creations with different stems are all in the registry. -/
theorem perm_of_pairwise {ordered : List Creation} (hordered : ordered.Pairwise Precedes)
    (hmem : ∀ c ∈ ordered, c ∈ calls) (hstems : ∀ c ∈ calls, ∃ c' ∈ ordered, c'.stem = c.stem)
    (hnodup : (calls.map stem).Nodup) : ordered.Perm calls := by
  have hdistinct : ordered.Nodup := List.nodup_iff_pairwise_ne.2 (hordered.imp Precedes.ne)
  refine (List.perm_ext_iff_of_nodup hdistinct hnodup.of_map).2 fun c => ⟨hmem c, fun hc => ?_⟩
  obtain ⟨c', hc', hstem⟩ := hstems c hc
  rwa [← List.inj_on_of_nodup_map hnodup (hmem c' hc') hc hstem]

/-- A run goes through the items of the creations that it visits. -/
theorem agenda_eq {r : Registry} {direction : Direction} {ordered : List Creation}
    (h : r.inOrder direction = ordered.map entry) (mode : Mode) :
    r.agenda mode direction = ordered.map (item mode direction) := by
  rw [← Registry.map_inOrder, h, List.map_map]
  rfl

/-- **Stems ascend as migrations are created.**  The stem of a migration tells its time and the
normal form of its name.  Among times from the epoch on whose numerals have one length, stems are in
the order of the times, and those of one time in the order of the names, by their bytes.  So a
registry whose migrations have such stems, registered in whatever order and however often, visits
them in the order of creation: a migration goes through them in this order, one after the other
until the first that fails, and a rollback goes through them from the last to the first. -/
theorem stems_ascend_as_created :
    (∀ c : Creation, Skeleton.render .migration c.given c.seconds = .ok c.skeleton ∧
      c.stem = c.skeleton.fileStem) ∧
    (∀ c c' : Creation, c.stem = c'.stem ↔ c.seconds = c'.seconds ∧ c.normal = c'.normal) ∧
    (∀ (n : Nat) (c c' : Creation), c.HasDigits n → c'.HasDigits n →
      (Utf8.bytes c.stem < Utf8.bytes c'.stem ↔ c.Precedes c')) ∧
    ∀ (n : Nat) (calls : List Creation), (∀ c ∈ calls, c.HasDigits n) →
      let r := Registry.ofList (calls.map entry)
      ∃ ordered : List Creation, ordered.Pairwise Precedes ∧
        ((∀ c ∈ ordered, c ∈ calls) ∧ (∀ c ∈ calls, ∃ c' ∈ ordered, c'.stem = c.stem) ∧
          ((calls.map stem).Nodup → ordered.Perm calls)) ∧
        r.inOrder .up = ordered.map entry ∧ r.inOrder .down = ordered.reverse.map entry ∧
        ∀ (mode : Mode) (k : Sink), k.IsOpen →
          (r.migrate mode k).Follows k (ordered.map (item mode .up)) ∧
          (r.rollback mode k).Follows k (ordered.reverse.map (item mode .down)) := by
  refine ⟨fun c => ⟨c.render_given, rfl⟩, fun _ _ => stem_eq_iff,
    fun n c c' h h' => Utf8.lt_iff_bytes_lt.symm.trans (stem_lt_iff h h'), fun n calls h => ?_⟩
  intro r
  obtain ⟨ordered, hentries, hordered, hmem, hstems⟩ := exists_ordered h
  have hup : r.inOrder .up = ordered.map entry := hentries.symm
  have hdown : r.inOrder .down = ordered.reverse.map entry := by
    rw [List.map_reverse, ← hup]
    rfl
  refine ⟨ordered, hordered, ⟨hmem, hstems, perm_of_pairwise hordered hmem hstems⟩, hup, hdown,
    fun mode k hk => ⟨?_, ?_⟩⟩
  · rw [← agenda_eq hup]
    exact Registry.run_follows hk
  · rw [← agenda_eq hdown]
    exact Registry.run_follows hk

/-- A migration that makes the table `zebras`, created first. -/
def zebras : Creation where
  given := "Zebras"
  seconds := 1700000001
  normal := "zebras".toList
  usable := by decide +kernel
  migration := Registry.tableOf "zebras" "name"

/-- A migration that makes the table `apples`, created one second later. -/
def apples : Creation where
  given := "apples!"
  seconds := 1700000002
  normal := "apples".toList
  usable := by decide +kernel
  migration := Registry.tableOf "apples" "colour"

/-- The names are in the other order than the times, and the later migration is registered first. -/
theorem zebras_before_apples :
    Utf8.bytes zebras.stem < Utf8.bytes apples.stem ∧
    ∃ ordered : List Creation, ordered.Perm [apples, zebras] ∧ ordered.Pairwise Precedes ∧
      ∀ mode, ((Registry.ofList [apples.entry, zebras.entry]).migrate mode {}).Follows {}
        (ordered.map (item mode .up)) := by
  have hz : zebras.HasDigits 10 := ⟨by decide, by decide +kernel⟩
  have ha : apples.HasDigits 10 := ⟨by decide, by decide +kernel⟩
  obtain ⟨-, heq, hlt, hregistry⟩ := stems_ascend_as_created
  refine ⟨(hlt 10 zebras apples hz ha).2 (.inl (by decide)), ?_⟩
  obtain ⟨ordered, hordered, ⟨-, -, hperm⟩, -, -, hruns⟩ :=
    hregistry 10 [apples, zebras] (by simp [hz, ha])
  refine ⟨ordered, hperm ?_, hordered, fun mode => (hruns mode {} (Sink.isOpen_new none)).1⟩
  have hne : apples.stem ≠ zebras.stem := fun h => absurd ((heq _ _).1 h).1 (by decide)
  simpa using hne

end Creation

end Schemata
