import Mathlib.Data.List.DropRight
import Schemata.Proofs.Table.Refusal

/-!
# Logs of accepted calls

A log lists the calls that a table has accepted.  Read backwards it tells the name of the table,
and from the last call that took the fragments away it tells the pending ones: each is what some
call added, changed by the modifiers that were called while it was the last.

* `Log.name?`, `Log.recent` — the last naming, and the calls after the last that took fragments;
* `Log.entries` — the fragments of a log, each with its modifiers;
* `Log.pending`, `Log.settled` — the fragments that are left, and those that were taken away.

Adding a call at the end acts on these as the call acts on a table (`Log.name?_append_singleton`,
`Log.pending_append_singleton`).
-/

namespace Schemata

/-! ### Effects of calls -/

namespace Call

/-- The fragments that the call adds. -/
def added : Call → List Fragment
  | .column name kind => [.column { name, kind }]
  | .timestamps => [.column Table.createdAt, .column Table.updatedAt]
  | .foreign name => [.foreignKey { column := name }]
  | .append f => [f]
  | _ => []

/-- Whether the call takes the pending fragments away. -/
def clears : Call → Bool
  | .reset | .create => true
  | _ => false

/-- Whether the call settles the name of the table. -/
def names : Call → Bool
  | .setName _ | .reset => true
  | _ => false

/-- The name after the call. -/
def rename : Call → Option String → Option String
  | .setName name, _ => some name
  | .reset, _ => none
  | _, name? => name?

/-- The last fragment after a modifier that was accepted. -/
def change : Call → Fragment → Fragment
  | .nullable, .column c => .column { c with nullable := true }
  | .default value, .column c => .column { c with default := some value }
  | .unique, .column c => .column { c with unique := true }
  | .references name, .foreignKey k => .foreignKey { k with references := some name }
  | .on name, .foreignKey k => .foreignKey { k with table := some name }
  | .cascadeOnDelete, .foreignKey k => .foreignKey { k with cascadeOnDelete := true }
  | .replaceLast f, _ => f
  | _, f => f

/-- Whether the call is a modifier. -/
def isModifier (c : Call) : Bool :=
  c.modifier?.isSome

/-- Whether the last fragment stays the last. -/
def isQuiet (c : Call) : Bool :=
  c.added.isEmpty && !c.clears

/-- The fragments after the call. -/
def reshape (c : Call) (fs : List Fragment) : List Fragment :=
  if c.clears then []
  else if c.isModifier then fs.dropLast ++ fs.getLast?.toList.map c.change
  else fs ++ c.added

variable {c : Call}

theorem added_of_isModifier (h : c.isModifier = true) : c.added = [] := by
  cases c <;> first | rfl | cases h

theorem clears_of_isModifier (h : c.isModifier = true) : c.clears = false := by
  cases c <;> first | rfl | cases h

theorem added_of_clears (h : c.clears = true) : c.added = [] := by
  cases c <;> first | rfl | cases h

theorem isQuiet_of_isModifier (h : c.isModifier = true) : c.isQuiet = true := by
  simp [isQuiet, added_of_isModifier h, clears_of_isModifier h]

end Call

namespace Log

/-! ### Definitions -/

/-- The name of the table, which the last naming or reset settled. -/
def name? (log : List Call) : Option String :=
  match log.reverse.find? Call.names with
  | some (.setName name) => some name
  | _ => none

/-- The calls since the last one that took the fragments away. -/
def recent (log : List Call) : List Call :=
  log.rtakeWhile fun c => !c.clears

/-- An added fragment with the modifiers that were called while it was the last. -/
structure Entry where
  /-- The fragment as it was added. -/
  initial : Fragment
  /-- The modifiers in the order in which they were called. -/
  modifiers : List Call

/-- The fragment as the modifiers left it. -/
def Entry.fragment (e : Entry) : Fragment :=
  e.modifiers.foldl (fun f m => m.change f) e.initial

/-- The modifiers at the front of the calls, up to the first call after which another fragment is
the last. -/
def modifiers (log : List Call) : List Call :=
  (log.takeWhile Call.isQuiet).filter Call.isModifier

/-- The entries of fragments that are added together.  The modifiers reach only the last. -/
def entriesOf (ms : List Call) (fs : List Fragment) : List Entry :=
  fs.dropLast.map (⟨·, []⟩) ++ fs.getLast?.toList.map (⟨·, ms⟩)

/-- The fragments that were added, in order, each with its modifiers. -/
def entries : List Call → List Entry
  | [] => []
  | c :: log => entriesOf (modifiers log) c.added ++ entries log

/-- The fragments that no statement and no reset took. -/
def pending (log : List Call) : List Fragment :=
  (entries (recent log)).map Entry.fragment

/-- The fragments that a statement or a reset took. -/
def settled (log : List Call) : List Fragment :=
  (entries (log.rdropWhile fun c => !c.clears)).map Entry.fragment

/-! ### Names -/

variable {log : List Call} {c : Call}

theorem name?_append_singleton (log : List Call) (c : Call) :
    name? (log ++ [c]) = c.rename (name? log) := by
  unfold name?
  rw [List.reverse_append, List.reverse_singleton, List.singleton_append, List.find?_cons]
  cases c <;> rfl

/-! ### Modifiers -/

theorem modifiers_append_of_all_isQuiet (h : log.all Call.isQuiet = true) (rest : List Call) :
    modifiers (log ++ rest) = modifiers log ++ modifiers rest := by
  have hall := List.all_eq_true.1 h
  unfold modifiers
  rw [List.takeWhile_append_of_pos hall, List.filter_append, List.takeWhile_eq_self_iff.2 hall]

theorem modifiers_append_of_not_all_isQuiet (h : log.all Call.isQuiet ≠ true)
    (rest : List Call) : modifiers (log ++ rest) = modifiers log := by
  have hlen : (log.takeWhile Call.isQuiet).length ≠ log.length := by
    intro hl
    have heq := (List.takeWhile_prefix Call.isQuiet).eq_of_length hl
    exact h (List.all_eq_true.2 (List.takeWhile_eq_self_iff.1 heq))
  rw [modifiers, List.takeWhile_append, if_neg hlen, modifiers]

/-- What follows a log does not reach its last fragment unless a modifier comes first. -/
theorem modifiers_append_of_modifiers_eq_nil (log : List Call) {rest : List Call}
    (h : modifiers rest = []) : modifiers (log ++ rest) = modifiers log := by
  by_cases hq : log.all Call.isQuiet = true
  · rw [modifiers_append_of_all_isQuiet hq, h, List.append_nil]
  · exact modifiers_append_of_not_all_isQuiet hq rest

theorem modifiers_singleton (c : Call) : modifiers [c] = if c.isModifier then [c] else [] := by
  cases hm : c.isModifier with
  | true => simp [modifiers, hm, Call.isQuiet_of_isModifier hm]
  | false => cases hq : c.isQuiet <;> simp [modifiers, hm, hq]

theorem modifiers_cons_of_clears (hc : c.clears = true) (rest : List Call) :
    modifiers (c :: rest) = [] := by
  simp [modifiers, Call.isQuiet, hc]

/-! ### Entries -/

theorem entriesOf_nil_left (fs : List Fragment) : entriesOf [] fs = fs.map (⟨·, []⟩) := by
  rcases List.eq_nil_or_concat' fs with rfl | ⟨gs, f, rfl⟩ <;> simp [entriesOf]

theorem entriesOf_append_singleton (ms : List Call) (fs : List Fragment) (f : Fragment) :
    entriesOf ms (fs ++ [f]) = fs.map (⟨·, []⟩) ++ [⟨f, ms⟩] := by
  simp [entriesOf]

theorem map_initial_entriesOf (ms : List Call) (fs : List Fragment) :
    (entriesOf ms fs).map Entry.initial = fs := by
  rcases List.eq_nil_or_concat' fs with rfl | ⟨gs, f, rfl⟩
  · rfl
  · simp [entriesOf_append_singleton, Function.comp_def]

theorem map_fragment_entriesOf_nil (fs : List Fragment) :
    (entriesOf [] fs).map Entry.fragment = fs := by
  simp [entriesOf_nil_left, Function.comp_def, Entry.fragment]

/-- Every added fragment has one entry, in the order of the calls. -/
theorem map_initial_entries (log : List Call) :
    (entries log).map Entry.initial = log.flatMap Call.added := by
  induction log with
  | nil => rfl
  | cons c log ih => simp [entries, map_initial_entriesOf, ih]

theorem entries_eq_nil_iff : entries log = [] ↔ ∀ c ∈ log, c.added = [] := by
  rw [← List.flatMap_eq_nil_iff, ← map_initial_entries, List.map_eq_nil_iff]

theorem entries_append_singleton_of_not_isModifier (log : List Call)
    (hc : c.isModifier = false) : entries (log ++ [c]) = entries log ++ entriesOf [] c.added := by
  induction log with
  | nil => simp [entries, modifiers]
  | cons c' log ih =>
    have hone : modifiers [c] = [] := by simp [modifiers_singleton, hc]
    simp only [List.cons_append, entries]
    rw [modifiers_append_of_modifiers_eq_nil log hone, ih, List.append_assoc]

theorem entries_append_singleton_of_eq_nil (h : entries log = []) (hc : c.added = []) :
    entries (log ++ [c]) = [] := by
  rw [entries_eq_nil_iff] at h ⊢
  intro x hx
  rcases List.mem_append.1 hx with hx | hx
  · exact h x hx
  · rwa [List.mem_singleton.1 hx]

/-- A modifier reaches the last entry. -/
theorem entries_append_singleton_of_isModifier {es : List Entry} {e : Entry}
    (hlog : ∀ c ∈ log, c.clears = false) (hc : c.isModifier = true)
    (h : entries log = es ++ [e]) :
    entries (log ++ [c]) = es ++ [{ e with modifiers := e.modifiers ++ [c] }] := by
  induction log generalizing es with
  | nil => simp [entries] at h
  | cons c' log ih =>
    have hlog' : ∀ c ∈ log, c.clears = false := fun c hc => hlog c (List.mem_cons_of_mem _ hc)
    have hquiet : log.all Call.isQuiet = true ↔ entries log = [] := by
      rw [entries_eq_nil_iff, List.all_eq_true]
      exact forall₂_congr fun c hc => by simp [Call.isQuiet, hlog' c hc]
    simp only [List.cons_append, entries] at h ⊢
    rcases List.eq_nil_or_concat' (entries log) with hn | ⟨es', e', hn⟩
    · -- no later call added a fragment, so the modifier reaches the last one of `c'`
      rw [modifiers_append_of_all_isQuiet (hquiet.2 hn), modifiers_singleton, if_pos hc,
        entries_append_singleton_of_eq_nil hn (Call.added_of_isModifier hc), List.append_nil]
      rw [hn, List.append_nil] at h
      rcases List.eq_nil_or_concat' c'.added with ha | ⟨fs, f, ha⟩
      · simp [ha, entriesOf] at h
      · rw [ha, entriesOf_append_singleton] at h ⊢
        obtain ⟨rfl, he⟩ := List.append_inj' h rfl
        simp only [List.cons.injEq, and_true] at he
        rw [← he]
    · -- a later call added the last fragment, so `c'` keeps its modifiers
      have hloud : log.all Call.isQuiet ≠ true := by simp [hquiet, hn]
      rw [hn, ← List.append_assoc] at h
      obtain ⟨rfl, he⟩ := List.append_inj' h rfl
      simp only [List.cons.injEq, and_true] at he
      subst he
      rw [modifiers_append_of_not_all_isQuiet hloud, ih hlog' hn, List.append_assoc]

/-- A call that takes the fragments away parts the entries before it from those after it. -/
theorem entries_append_cons_of_clears (log rest : List Call) (hc : c.clears = true) :
    entries (log ++ c :: rest) = entries log ++ entries rest := by
  induction log with
  | nil => simp [entries, entriesOf, Call.added_of_clears hc]
  | cons c' log ih =>
    have hmods := modifiers_append_of_modifiers_eq_nil log (modifiers_cons_of_clears hc rest)
    simp only [List.cons_append, entries, hmods, ih, List.append_assoc]

/-! ### Pending and settled fragments -/

theorem clears_of_mem_recent (h : c ∈ recent log) : c.clears = false := by
  simpa using List.mem_rtakeWhile_imp h

theorem recent_append_singleton (log : List Call) (c : Call) :
    recent (log ++ [c]) = if c.clears then [] else recent log ++ [c] := by
  rw [recent, List.rtakeWhile_concat]
  cases c.clears <;> rfl

theorem pending_append_singleton (log : List Call) (c : Call) :
    pending (log ++ [c]) = c.reshape (pending log) := by
  rw [pending, recent_append_singleton, Call.reshape]
  split
  · rfl
  · cases hm : c.isModifier with
    | false =>
      rw [entries_append_singleton_of_not_isModifier _ hm, List.map_append,
        map_fragment_entriesOf_nil]
      rfl
    | true =>
      rcases List.eq_nil_or_concat' (entries (recent log)) with hn | ⟨es, e, hn⟩
      · rw [entries_append_singleton_of_eq_nil hn (Call.added_of_isModifier hm)]
        simp [pending, hn]
      · rw [entries_append_singleton_of_isModifier (fun _ h => clears_of_mem_recent h) hm hn]
        simp [pending, hn, Entry.fragment]

/-- The fragments of a log were taken away or are left. -/
theorem map_fragment_entries (log : List Call) :
    (entries log).map Entry.fragment = settled log ++ pending log := by
  have hsplit : (log.rdropWhile fun c => !c.clears) ++ recent log = log :=
    List.rdropWhile_append_rtakeWhile
  rw [settled, pending, ← List.map_append]
  congr 1
  rcases List.eq_nil_or_concat' (log.rdropWhile fun c => !c.clears) with hn | ⟨old, c, hn⟩
  · rw [hn, List.nil_append] at hsplit
    simp [hn, hsplit, entries]
  · -- the settled calls end with one that took the fragments away
    have hc : c.clears = true := by
      have h := List.rdropWhile_last_not (fun c : Call => !c.clears) log (by simp [hn])
      simpa [hn] using h
    rw [hn, List.append_assoc] at hsplit
    rw [hn, entries_append_cons_of_clears old [] hc]
    conv_lhs => rw [← hsplit]
    simp [entries_append_cons_of_clears old (recent log) hc, entries]

theorem settled_append_singleton (log : List Call) (c : Call) :
    settled (log ++ [c]) = if c.clears then settled log ++ pending log else settled log := by
  cases hc : c.clears with
  | false => simp [settled, hc]
  | true =>
    have hentries : entries (log ++ [c]) = entries log := by
      simp [entries_append_cons_of_clears log [] hc, entries]
    rw [if_pos rfl, ← map_fragment_entries]
    simp [settled, hc, hentries]

end Log

end Schemata
