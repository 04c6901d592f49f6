import Mathlib.Data.List.Infix
import Schemata.FileTree

/-!
# Walking along paths

A part of a path either leads on to a directory, or the walk ends there: at a file, at a free place
or nowhere.  So the parts before the last one that counts lead to a directory, and what they lead to
does not depend on what comes after them.

* `FileTree.enter?` — the directory that one part leads to;
* `FileTree.First` — all that the first part of a path can come to;
* `FileTree.walk_append`, `FileTree.exists_walk_of_append` — walks in a row;
* `FileTree.steps` — the parts of a path that count;
* `FileTree.prefix_of_walk` — a walk that never goes up stays below its start.
-/

namespace Schemata

namespace FileTree

variable {t : FileTree} {here there p q : Place} {e : Entry} {name : String}
  {names rest : List String}

/-! ### One part -/

/-- The directory that a part leads to, if it leads to one. -/
def enter? (t : FileTree) (here : Place) (name : String) : Option Place :=
  if name = "" ∨ name = "." then some here
  else if name = ".." then some here.dropLast
  else if name.utf8ByteSize > maxNameLength then none
  else if t.at? (here ++ [name]) = some .directory then some (here ++ [name])
  else none

/-- Whether an entry may have the name. -/
def IsName (name : String) : Prop :=
  ¬(name = "" ∨ name = ".") ∧ name ≠ ".." ∧ ¬name.utf8ByteSize > maxNameLength

/-- What the first part of a path comes to, before the rest. -/
inductive First (t : FileTree) (here : Place) (name : String) (rest : List String) : Found → Prop
  /-- It leads to a directory, from which the rest goes on. -/
  | on {there : Place} {found : Found} (h : t.enter? here name = some there)
    (hrest : t.walk there rest = found) : First t here name rest found
  /-- It is the name of a file and the last part. -/
  | file {contents : String} (hname : IsName name)
    (h : t.at? (here ++ [name]) = some (.file contents)) (hrest : rest = []) :
    First t here name rest (.entry (here ++ [name]) (.file contents))
  /-- It is the name of nothing, and only slashes follow it. -/
  | free (hname : IsName name) (h : t.at? (here ++ [name]) = none) (hrest : ∀ s ∈ rest, s = "") :
    First t here name rest (.free (here ++ [name]))
  /-- It leads nowhere. -/
  | nowhere : First t here name rest .nowhere

theorem walk_cons_of_enter? (h : t.enter? here name = some there) (rest : List String) :
    t.walk here (name :: rest) = t.walk there rest := by
  unfold enter? at h
  rw [walk]
  split at h
  next hstay =>
    cases h
    rw [if_pos hstay]
  next hstay =>
    rw [if_neg hstay]
    split at h
    next hup =>
      cases h
      rw [if_pos hup]
    next hup =>
      rw [if_neg hup]
      split at h
      next => cases h
      next hlong =>
        rw [if_neg hlong]
        split at h
        next hdir =>
          cases h
          simp only [hdir]
        next => cases h

theorem walk_cons_of_enter?_eq_none (h : t.enter? here name = none) (rest : List String) :
    First t here name rest (t.walk here (name :: rest)) := by
  unfold enter? at h
  rw [walk]
  split at h
  next => cases h
  next hstay =>
    split at h
    next => cases h
    next hup =>
      rw [if_neg hstay, if_neg hup]
      split
      next => exact .nowhere
      next hlong =>
        rw [if_neg hlong] at h
        split
        next hdir => simp [hdir] at h
        next contents hfile =>
          split
          next hlast => exact .file ⟨hstay, hup, hlong⟩ hfile hlast
          next => exact .nowhere
        next hnone =>
          split
          next hslashes => exact .free ⟨hstay, hup, hlong⟩ hnone (by simpa using hslashes)
          next => exact .nowhere

/-- The first part of a path comes to one of four things. -/
theorem first_of_walk {found : Found} (h : t.walk here (name :: rest) = found) :
    First t here name rest found := by
  cases hn : t.enter? here name with
  | some there => exact .on hn (by rw [← h, walk_cons_of_enter? hn])
  | none => exact h ▸ walk_cons_of_enter?_eq_none hn rest

/-- A name that is looked up ends the walk at a file. -/
theorem walk_singleton_of_file {contents : String} (hname : IsName name)
    (h : t.at? (here ++ [name]) = some (.file contents)) :
    t.walk here [name] = .entry (here ++ [name]) (.file contents) := by
  rw [walk, if_neg hname.1, if_neg hname.2.1, if_neg hname.2.2]
  simp [h]

theorem enter?_of_directory (hname : IsName name) (h : t.at? (here ++ [name]) = some .directory) :
    t.enter? here name = some (here ++ [name]) := by
  rw [enter?, if_neg hname.1, if_neg hname.2.1, if_neg hname.2.2, if_pos h]

/-! ### Where walks end -/

/-- A walk that ends at a free place has found no entry there. -/
theorem at?_of_walk_free (h : t.walk here names = .free p) : t.at? p = none := by
  induction names generalizing here with
  | nil => cases h
  | cons name rest ih =>
    cases first_of_walk h with
    | on _ hrest => exact ih hrest
    | free _ hnone _ => exact hnone

/-- A walk that ends at a file has found it there. -/
theorem at?_of_walk_file {contents : String} (h : t.walk here names = .entry p (.file contents)) :
    t.at? p = some (.file contents) := by
  induction names generalizing here with
  | nil => cases h
  | cons name rest ih =>
    cases first_of_walk h with
    | on _ hrest => exact ih hrest
    | file _ hfile _ => exact hfile

/-- Parts that lead to a directory can be followed by others. -/
theorem walk_append (h : t.walk here names = .entry q .directory) (rest : List String) :
    t.walk here (names ++ rest) = t.walk q rest := by
  induction names generalizing here with
  | nil =>
    cases h
    rfl
  | cons name names ih =>
    cases first_of_walk h with
    | on hn hrest => rw [List.cons_append, walk_cons_of_enter? hn, ih hrest]

/-- Of a path that leads to an entry, all but the last part lead to a directory. -/
theorem exists_walk_of_append (h : t.walk here (names ++ rest) = .entry p e) (hrest : rest ≠ []) :
    ∃ q, t.walk here names = .entry q .directory ∧ t.walk q rest = .entry p e := by
  induction names generalizing here with
  | nil => exact ⟨here, rfl, h⟩
  | cons name names ih =>
    cases first_of_walk h with
    | on hn hwalk =>
      obtain ⟨q, hq, hp⟩ := ih hwalk
      exact ⟨q, by rw [walk_cons_of_enter? hn, hq], hp⟩
    | file _ _ hlast => exact absurd (List.append_eq_nil_iff.1 hlast).2 hrest

/-- A path that ends in a name and leads to a free place leads to a directory without the name. -/
theorem exists_walk_of_concat_free (h : t.walk here (names ++ [name]) = .free p)
    (hname : name ≠ "") :
    ∃ q, t.walk here names = .entry q .directory ∧ p = q ++ [name] := by
  induction names generalizing here with
  | nil =>
    refine ⟨here, rfl, ?_⟩
    cases first_of_walk h with
    | on _ hrest => cases hrest
    | free _ _ _ => rfl
  | cons name' names ih =>
    cases first_of_walk h with
    | on hn hrest =>
      obtain ⟨q, hq, hp⟩ := ih hrest
      exact ⟨q, by rw [walk_cons_of_enter? hn, hq], hp⟩
    | free _ _ hslashes => exact absurd (hslashes name (by simp)) hname

/-- Of a path that leads to a directory, every part from the start does. -/
theorem exists_walk_of_prefix (h : t.walk here names = .entry p .directory)
    (hlead : rest <+: names) : ∃ q, t.walk here rest = .entry q .directory := by
  obtain ⟨last, rfl⟩ := hlead
  by_cases hlast : last = []
  · rw [hlast, List.append_nil] at h
    exact ⟨p, h⟩
  · obtain ⟨q, hq, -⟩ := exists_walk_of_append h hlast
    exact ⟨q, hq⟩

/-- Slashes at the end of a path to a directory lead no further. -/
theorem walk_slashes (h : ∀ s ∈ rest, s = "") : t.walk here rest = .entry here .directory := by
  induction rest with
  | nil => rfl
  | cons s rest ih =>
    rw [List.forall_mem_cons] at h
    have hstay : t.enter? here s = some here := by simp [enter?, h.1]
    rw [walk_cons_of_enter? hstay, ih h.2]

/-! ### Walks that do not go up -/

theorem prefix_of_enter? (h : t.enter? here name = some there) (hname : name ≠ "..") :
    here <+: there := by
  unfold enter? at h
  rw [if_neg hname] at h
  split at h
  · cases h
    exact List.prefix_refl _
  · split at h
    · cases h
    · split at h
      · cases h
        exact List.prefix_append _ _
      · cases h

/-- A name other than `.` and `..` leads to the entry with this name. -/
theorem eq_of_enter? (h : t.enter? here name = some there) (hstay : ¬(name = "" ∨ name = "."))
    (hup : name ≠ "..") : there = here ++ [name] := by
  unfold enter? at h
  rw [if_neg hstay, if_neg hup] at h
  split at h
  · cases h
  · split at h
    · cases h
      rfl
    · cases h

/-- A walk that never goes up stays below its start. -/
theorem prefix_of_walk (h : t.walk here names = .entry p e) (hnames : ".." ∉ names) :
    here <+: p := by
  induction names generalizing here with
  | nil =>
    cases h
    exact List.prefix_refl _
  | cons name names ih =>
    rw [List.mem_cons, not_or] at hnames
    cases first_of_walk h with
    | on hn hrest => exact (prefix_of_enter? hn (Ne.symm hnames.1)).trans (ih hrest hnames.2)
    | file _ _ _ => exact List.prefix_append _ _

/-! ### What is found -/

theorem find_eq_entry_iff {path : String} :
    t.find path = .entry p e ↔
      isUsable path = true ∧ t.walk (t.start path) (parts path) = .entry p e := by
  unfold find
  split <;> simp_all

theorem find_eq_free_iff {path : String} :
    t.find path = .free p ↔
      isUsable path = true ∧ t.walk (t.start path) (parts path) = .free p := by
  unfold find
  split <;> simp_all

/-! ### The parts that count -/

/-- Whether a part leads to another directory than the one it is looked up in. -/
def counts (name : String) : Bool :=
  decide (name ≠ "" ∧ name ≠ ".")

/-- The parts of a path that count. -/
def steps (path : String) : List String :=
  (parts path).filter counts

/-- The parts that do not count may be left out on the way to a directory. -/
theorem walk_filter_counts :
    t.walk here (names.filter counts) = .entry q .directory ↔
      t.walk here names = .entry q .directory := by
  induction names generalizing here with
  | nil => rfl
  | cons name names ih =>
    by_cases hname : counts name = true
    · rw [List.filter_cons_of_pos hname]
      constructor <;> intro h <;> cases first_of_walk h with
      | on hn hrest =>
        rw [walk_cons_of_enter? hn]
        first | exact ih.1 hrest | exact ih.2 hrest
    · have hstay : t.enter? here name = some here := by
        have hno : name = "" ∨ name = "." := by
          simpa [counts, or_iff_not_imp_left] using hname
        simp [enter?, hno]
      rw [List.filter_cons_of_neg hname, ih, walk_cons_of_enter? hstay]

theorem walk_steps {path : String} :
    t.walk here (steps path) = .entry q .directory ↔
      t.walk here (parts path) = .entry q .directory :=
  walk_filter_counts

/-! ### Paths put together -/

theorem splitSlashes_ne_nil (cs : List Char) : splitSlashes cs ≠ [] := by
  cases cs with
  | nil => simp [splitSlashes]
  | cons c cs =>
    unfold splitSlashes
    split
    · simp
    · split <;> simp

/-- A slash parts what is before it from what is after it. -/
theorem splitSlashes_append_slash (cs ds : List Char) :
    splitSlashes (cs ++ '/' :: ds) = splitSlashes cs ++ splitSlashes ds := by
  induction cs with
  | nil => simp [splitSlashes]
  | cons c cs ih =>
    simp only [List.cons_append, splitSlashes, ih]
    split
    · rfl
    · cases hcs : splitSlashes cs with
      | nil => exact absurd hcs (splitSlashes_ne_nil cs)
      | cons p ps => rfl

theorem splitSlashes_eq_singleton {cs : List Char} (h : '/' ∉ cs) : splitSlashes cs = [cs] := by
  induction cs with
  | nil => rfl
  | cons c cs ih =>
    rw [List.mem_cons, not_or] at h
    simp [splitSlashes, Ne.symm h.1, ih h.2]

theorem parts_ne_nil (path : String) : parts path ≠ [] := by
  simp [parts, splitSlashes_ne_nil]

/-- A text without a slash is one part. -/
theorem parts_eq_singleton {name : String} (h : '/' ∉ name.toList) : parts name = [name] := by
  simp [parts, splitSlashes_eq_singleton h]

theorem parts_append_slash (a b : String) : parts (a ++ "/" ++ b) = parts a ++ parts b := by
  have hsplit := splitSlashes_append_slash a.toList b.toList
  simp [parts, hsplit]

end FileTree

end Schemata
