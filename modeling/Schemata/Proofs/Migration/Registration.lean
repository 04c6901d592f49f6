import Mathlib.Data.List.Dedup
import Mathlib.Data.List.Induction
import Schemata.Proofs.Lookup
import Schemata.Proofs.Migration.Agenda
import Schemata.Proofs.Text.ByteOrder

/-!
# Registrations

A name belongs to the migration that is registered under it first.  A later registration under the
name is refused and changes nothing, so a registry is told by the first registration of each name,
and the order in which different names were registered does not show.

* `Registry.mem_entries_ofList` — the migrations after a sequence of registrations;
* `Registry.register_ofList` — what the next registration answers;
* `Registry.ofList_eq_of_perm` — registrations under different names in another order;
* `Registry.registration_is_first_come` — all of this, with the order of the names and of visits.
-/

namespace Schemata

namespace Registry

variable {r r' : Registry} {calls calls' : List (String × Migration)} {name : String}
  {m : Migration}

/-! ### One registration -/

theorem eq_of_entries_eq (h : r.entries = r'.entries) : r = r' := by
  cases r
  cases r'
  simpa using h

theorem register_of_mem (h : name ∈ r.names) (m : Migration) :
    r.register name m = .error (.duplicateMigration name) :=
  dif_pos h

theorem register_of_not_mem (h : name ∉ r.names) (m : Migration) :
    ∃ r', r.register name m = .ok r' ∧ r'.entries = insertEntry (name, m) r.entries :=
  ⟨_, dif_neg h, rfl⟩

theorem mem_names_iff : name ∈ r.names ↔ ∃ m, (name, m) ∈ r.entries := by
  simp [names]

theorem nodup_names (r : Registry) : r.names.Nodup :=
  List.Pairwise.imp (fun h => String.ne_of_lt h) (List.pairwise_map.2 r.ascending)

/-! ### Sequences of registrations -/

theorem ofList_append_singleton (calls : List (String × Migration)) (name : String)
    (m : Migration) :
    ofList (calls ++ [(name, m)]) =
      ((ofList calls).register name m).toOption.getD (ofList calls) := by
  simp [ofList]

theorem ofList_append_of_mem (h : name ∈ (ofList calls).names) (m : Migration) :
    ofList (calls ++ [(name, m)]) = ofList calls := by
  rw [ofList_append_singleton, register_of_mem h]
  rfl

theorem register_ofList_of_not_mem (h : name ∉ (ofList calls).names) (m : Migration) :
    (ofList calls).register name m = .ok (ofList (calls ++ [(name, m)])) ∧
      (ofList (calls ++ [(name, m)])).entries = insertEntry (name, m) (ofList calls).entries := by
  obtain ⟨r, hr, hentries⟩ := register_of_not_mem h m
  have hnext : ofList (calls ++ [(name, m)]) = r := by
    rw [ofList_append_singleton, hr]
    rfl
  rw [hnext]
  exact ⟨hr, hentries⟩

/-- The migration under a name is the first one that was registered under it. -/
theorem mem_entries_ofList :
    (name, m) ∈ (ofList calls).entries ↔ calls.lookup name = some m := by
  induction calls using List.reverseRecOn generalizing name m with
  | nil => simp [ofList, empty]
  | append_singleton calls call ih =>
    obtain ⟨name', m'⟩ := call
    rw [List.lookup_append]
    by_cases hname : name' ∈ (ofList calls).names
    · -- the name was taken, so looking for it ends before the last call
      rw [ofList_append_of_mem hname, ih]
      obtain ⟨m'', hfirst⟩ := mem_names_iff.1 hname
      rw [ih] at hfirst
      by_cases heq : name = name'
      · simp [heq, hfirst]
      · simp [List.lookup_cons, beq_false_of_ne heq]
    · have hnone : calls.lookup name' = none := by
        refine Option.eq_none_iff_forall_ne_some.2 fun m'' hm'' => hname ?_
        exact mem_names_iff.2 ⟨m'', ih.2 hm''⟩
      rw [(register_ofList_of_not_mem hname m').2, mem_insertEntry, ih]
      by_cases heq : name = name'
      · subst heq
        simp [hnone, eq_comm]
      · simp [List.lookup_cons, beq_false_of_ne heq, heq]

theorem mem_of_mem_entries_ofList (h : (name, m) ∈ (ofList calls).entries) :
    (name, m) ∈ calls := by
  obtain ⟨front, back, rfl, -⟩ := List.lookup_eq_some_iff.1 (mem_entries_ofList.1 h)
  simp

theorem mem_names_ofList : name ∈ (ofList calls).names ↔ name ∈ calls.map Prod.fst := by
  rw [mem_names_iff]
  simp only [mem_entries_ofList, ← Option.isSome_iff_exists]
  induction calls with
  | nil => simp
  | cons call calls ih =>
    rw [List.lookup_cons, List.map_cons, List.mem_cons, ← ih]
    by_cases heq : name = call.1
    · simp [heq]
    · simp [beq_false_of_ne heq, heq]

/-- What a registration answers after others. -/
theorem register_ofList (calls : List (String × Migration)) (name : String) (m : Migration) :
    (ofList calls).register name m =
      if name ∈ calls.map Prod.fst then .error (.duplicateMigration name)
      else .ok (ofList (calls ++ [(name, m)])) := by
  split
  next h => exact register_of_mem (mem_names_ofList.2 h) m
  next h => exact (register_ofList_of_not_mem (fun h' => h (mem_names_ofList.1 h')) m).1

theorem size_ofList (calls : List (String × Migration)) :
    (ofList calls).size = (calls.map Prod.fst).dedup.length := by
  have hsame : (ofList calls).names.Perm (calls.map Prod.fst).dedup := by
    refine (List.perm_ext_iff_of_nodup (nodup_names _) (List.nodup_dedup _)).2 fun name => ?_
    rw [mem_names_ofList, List.mem_dedup]
  simpa [names, size] using hsame.length_eq

theorem names_ascend (r : Registry) :
    r.names.Pairwise fun a b => Utf8.bytes a < Utf8.bytes b :=
  List.Pairwise.imp Utf8.lt_iff_bytes_lt.1 (List.pairwise_map.2 r.ascending)

/-! ### Other orders -/

theorem ofList_eq_of_perm (hnodup : (calls.map Prod.fst).Nodup) (h : calls.Perm calls') :
    ofList calls = ofList calls' := by
  have hentries (r : Registry) : r.entries.Nodup := (nodup_names r).of_map Prod.fst
  have hsame : (ofList calls).entries.Perm (ofList calls').entries := by
    refine (List.perm_ext_iff_of_nodup (hentries _) (hentries _)).2 fun ⟨name, m⟩ => ?_
    rw [mem_entries_ofList, mem_entries_ofList, Lookup.eq_of_perm hnodup h]
  -- the same entries in the one order that their names allow
  refine eq_of_entries_eq (hsame.eq_of_pairwise (fun a b _ _ hab hba => ?_)
    (ofList calls).ascending (ofList calls').ascending)
  exact absurd hba (String.lt_asymm hab)

/-- **Registrations are first come, first served.**  A registration is refused exactly if its name
was registered before, and then nothing changes.  So the registry has for each name the first
migration that was registered under it, and as many migrations as there are names; the names ascend
in the order of their bytes.  Forwards the migrations are visited in this order, each under its own
name, and backwards in the reverse one.  The order in which different names are registered has no
part in the names, in plans and in runs. -/
theorem registration_is_first_come (calls : List (String × Migration)) :
    (∀ name m, (ofList calls).register name m =
        if name ∈ calls.map Prod.fst then .error (.duplicateMigration name)
        else .ok (ofList (calls ++ [(name, m)]))) ∧
      (∀ name m, name ∈ calls.map Prod.fst → ofList (calls ++ [(name, m)]) = ofList calls) ∧
      (∀ name m, (name, m) ∈ (ofList calls).entries ↔ calls.lookup name = some m) ∧
      ((ofList calls).names.Pairwise (fun a b => Utf8.bytes a < Utf8.bytes b) ∧
        (∀ name, name ∈ (ofList calls).names ↔ name ∈ calls.map Prod.fst) ∧
        (ofList calls).size = (calls.map Prod.fst).dedup.length) ∧
      (((ofList calls).inOrder .up).map Prod.fst = (ofList calls).names ∧
        (∀ entry ∈ (ofList calls).inOrder .up, calls.lookup entry.1 = some entry.2) ∧
        (ofList calls).inOrder .down = ((ofList calls).inOrder .up).reverse) ∧
      ∀ calls', (calls.map Prod.fst).Nodup → calls.Perm calls' →
        (ofList calls).names = (ofList calls').names ∧
        (∀ mode direction sink, (ofList calls).plan mode direction sink =
          (ofList calls').plan mode direction sink) ∧
        ∀ (task : Task) mode sink, task.run (ofList calls) mode sink =
          task.run (ofList calls') mode sink := by
  refine ⟨register_ofList calls, fun name m h => ofList_append_of_mem (mem_names_ofList.2 h) m,
    fun _ _ => mem_entries_ofList,
    ⟨names_ascend _, fun _ => mem_names_ofList, size_ofList calls⟩,
    ⟨rfl, fun entry h => mem_entries_ofList.1 h, rfl⟩, fun calls' hnodup h => ?_⟩
  rw [ofList_eq_of_perm hnodup h]
  exact ⟨rfl, fun _ _ _ => rfl, fun _ _ _ => rfl⟩

/-- A migration that makes a table with one column, or drops it. -/
def tableOf (table column : String) : Migration where
  up := [.call (.setName table), .call (.column column .text), .call .create]
  down := [.call (.setName table), .call .drop]

/-- The later migration comes first, and its name is then asked for again. -/
theorem late_registration :
    (ofList [("m2_posts", tableOf "posts" "title"), ("m1_users", tableOf "users" "email")]).register
        "m2_posts" (tableOf "comments" "body") = .error (.duplicateMigration "m2_posts") ∧
      ("m2_posts", tableOf "posts" "title") ∈ (ofList [("m2_posts", tableOf "posts" "title"),
        ("m1_users", tableOf "users" "email"), ("m2_posts", tableOf "comments" "body")]).entries ∧
      Task.refresh.run (ofList [("m2_posts", tableOf "posts" "title"),
          ("m1_users", tableOf "users" "email")]) { dialect := .generic } {} =
        Task.refresh.run (ofList [("m1_users", tableOf "users" "email"),
          ("m2_posts", tableOf "posts" "title")]) { dialect := .generic } {} := by
  obtain ⟨hregister, hsame, hfirst, -, -, horder⟩ := registration_is_first_come
    [("m2_posts", tableOf "posts" "title"), ("m1_users", tableOf "users" "email")]
  have htaken : "m2_posts" ∈ [("m2_posts", tableOf "posts" "title"),
      ("m1_users", tableOf "users" "email")].map Prod.fst := by simp
  refine ⟨(hregister _ _).trans (if_pos htaken), ?_, ?_⟩
  · exact (congrArg (_ ∈ entries ·) (hsame _ _ htaken)).mpr ((hfirst _ _).2 rfl)
  · exact (horder _ (by decide) (.swap ..)).2.2 .refresh _ _

end Registry

end Schemata
