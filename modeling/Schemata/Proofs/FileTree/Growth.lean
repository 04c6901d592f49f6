import Schemata.Proofs.FileTree.Walking

/-!
# Growing trees

Nothing of a tree is changed or taken away: what is made is added at free places.  Making
directories along a path adds directories only, and each of them is where the path comes along.

* `FileTree.ContinuedBy` — one tree has all the entries of another, in their places;
* `FileTree.OnTheWay` — a path, or a part of it from its start, leads to a directory;
* `FileTree.MadeAlong` — what is added is made on the way;
* `FileTree.makeDirectories_madeAlong` — this is what making directories does;
* `FileTree.makeDirectories_of_walk` — where the directories are there, nothing is made.
-/

namespace Schemata

namespace FileTree

/-! ### What is kept -/

/-- All entries of `t` are in their places in `t'`. -/
structure ContinuedBy (t t' : FileTree) : Prop where
  /-- The current directory is the same. -/
  current : t'.current = t.current
  /-- An entry is where it was, and a file has the text that it had. -/
  kept : ∀ p e, t.at? p = some e → t'.at? p = some e

variable {t t' t'' : FileTree} {here p q : Place} {e : Entry} {names done : List String}
  {path : String}

namespace ContinuedBy

theorem refl (t : FileTree) : t.ContinuedBy t := ⟨rfl, fun _ _ h => h⟩

theorem trans (h : t.ContinuedBy t') (h' : t'.ContinuedBy t'') : t.ContinuedBy t'' :=
  ⟨h'.current.trans h.current, fun p e hp => h'.kept p e (h.kept p e hp)⟩

/-- What is added at a free place takes nothing away. -/
theorem add (e : Entry) (h : t.at? p = none) : t.ContinuedBy (t.add p e) := by
  refine ⟨rfl, fun q e' hq => ?_⟩
  have hne : q ≠ p := by
    rintro rfl
    cases h.symm.trans hq
  rw [at?_add e q h, if_neg hne, hq]

theorem start (h : t.ContinuedBy t') (path : String) : t'.start path = t.start path := by
  simp [FileTree.start, h.current]

theorem enter? (h : t.ContinuedBy t') {name : String} {there : Place}
    (hn : t.enter? here name = some there) : t'.enter? here name = some there := by
  unfold FileTree.enter? at hn ⊢
  split at hn
  · rwa [if_pos ‹_›]
  · rw [if_neg ‹_›]
    split at hn
    · rwa [if_pos ‹_›]
    · rw [if_neg ‹_›]
      split at hn
      · cases hn
      · rw [if_neg ‹_›]
        split at hn
        next hdir => rwa [if_pos (h.kept _ _ hdir)]
        next => cases hn

/-- A path leads to the entry that it led to. -/
theorem walk (h : t.ContinuedBy t') (hw : t.walk here names = .entry p e) :
    t'.walk here names = .entry p e := by
  induction names generalizing here with
  | nil => exact hw
  | cons name rest ih =>
    cases first_of_walk hw with
    | on hn hrest => rw [walk_cons_of_enter? (h.enter? hn), ih hrest]
    | file hname hfile hlast =>
      subst hlast
      exact walk_singleton_of_file hname (h.kept _ _ hfile)

end ContinuedBy

theorem at?_add_self (e : Entry) (h : t.at? p = none) : (t.add p e).at? p = some e := by
  rw [at?_add e p h, if_pos rfl]

/-- Of what is there after an addition, all but the added entry was there before. -/
theorem eq_of_at?_add {e' : Entry} (h : t.at? p = none) (hq : t.at? q = none)
    (hq' : (t.add p e).at? q = some e') : q = p ∧ e' = e := by
  rw [at?_add e q h] at hq'
  split at hq'
  next heq =>
    cases hq'
    exact ⟨heq, rfl⟩
  next => cases hq.symm.trans hq'

/-- A path that led to a free place leads to the entry that is added there: to a directory, or to a
file if the path does not end in a slash. -/
theorem walk_add_free (h : t.walk here names = .free p)
    (he : e = .directory ∨ names.getLast? ≠ some "") :
    (t.add p e).walk here names = .entry p e := by
  have hadd : t.ContinuedBy (t.add p e) := .add e (at?_of_walk_free h)
  have hself : (t.add p e).at? p = some e := at?_add_self e (at?_of_walk_free h)
  induction names generalizing here with
  | nil => cases h
  | cons name rest ih =>
    cases first_of_walk h with
    | on hn hrest =>
      rw [walk_cons_of_enter? (hadd.enter? hn)]
      refine ih hrest (he.imp_right fun hlast => ?_)
      cases rest with
      | nil => cases hrest
      | cons _ _ => rwa [List.getLast?_cons_cons] at hlast
    | free hname _ hslashes =>
      cases e with
      | directory =>
        rw [walk_cons_of_enter? (enter?_of_directory hname hself), walk_slashes hslashes]
      | file contents =>
        -- with a slash after its name the file would not be found
        obtain rfl : rest = [] := by
          rcases List.eq_nil_or_concat' rest with hnil | ⟨before, s, rfl⟩
          · exact hnil
          · have hlast := he.resolve_left nofun
            rw [hslashes s (by simp), ← List.cons_append, List.getLast?_concat] at hlast
            exact absurd rfl hlast
        exact walk_singleton_of_file hname hself

/-! ### What is made on the way -/

/-- A path, or a part of it from its start, leads to the directory at the place. -/
def OnTheWay (t : FileTree) (here : Place) (names : List String) (q : Place) : Prop :=
  ∃ lead, lead <+: names ∧ t.walk here lead = .entry q .directory

/-- All that is new in `t'` are directories on the way. -/
structure MadeAlong (t t' : FileTree) (here : Place) (names : List String) : Prop where
  /-- What was there is still there. -/
  continued : t.ContinuedBy t'
  /-- What was not there is a directory on the way. -/
  new : ∀ q e, t.at? q = none → t'.at? q = some e →
    e = .directory ∧ t'.OnTheWay here names q

namespace MadeAlong

theorem refl (t : FileTree) (here : Place) (names : List String) :
    t.MadeAlong t here names :=
  ⟨.refl t, fun _ _ hq hq' => by cases hq.symm.trans hq'⟩

theorem trans (h : t.MadeAlong t' here done) (h' : t'.MadeAlong t'' here names)
    (hlead : done <+: names) : t.MadeAlong t'' here names := by
  refine ⟨h.continued.trans h'.continued, fun q e hq hq'' => ?_⟩
  cases hq' : t'.at? q with
  | none => exact h'.new q e hq' hq''
  | some e' =>
    obtain ⟨rfl, lead, hprefix, hwalk⟩ := h.new q e' hq hq'
    have he : e = .directory := Option.some.inj (hq''.symm.trans (h'.continued.kept q _ hq'))
    exact ⟨he, lead, hprefix.trans hlead, h'.continued.walk hwalk⟩

/-- The parts that do not count lead to no other directories. -/
theorem steps (h : t.MadeAlong t' here (parts path)) :
    t.MadeAlong t' here (steps path) := by
  refine ⟨h.continued, fun q e hq hq' => ?_⟩
  obtain ⟨he, lead, hlead, hwalk⟩ := h.new q e hq hq'
  exact ⟨he, lead.filter counts, hlead.filter _, walk_filter_counts.2 hwalk⟩

/-- No file is made, and none is changed or taken away. -/
theorem file_iff (h : t.MadeAlong t' here names) {contents : String} :
    t'.at? q = some (.file contents) ↔ t.at? q = some (.file contents) := by
  refine ⟨fun hq' => ?_, fun hq => h.continued.kept q _ hq⟩
  cases hq : t.at? q with
  | none => cases (h.new q _ hq hq').1
  | some e => exact (h.continued.kept q e hq).symm.trans hq'

end MadeAlong

/-! ### Making directories -/

/-- The directory that is made is the only new entry. -/
theorem makeDirectory_madeAlong (h : t.makeDirectory here names = some t') :
    t.MadeAlong t' here names := by
  unfold makeDirectory at h
  split at h
  next p hfree =>
    cases h
    have hnone := at?_of_walk_free hfree
    refine ⟨.add _ hnone, fun q e hq hq' => ?_⟩
    obtain ⟨rfl, rfl⟩ := eq_of_at?_add hnone hq hq'
    exact ⟨rfl, names, List.prefix_refl _, walk_add_free hfree (.inl rfl)⟩
  next =>
    cases h
    exact .refl t here names
  next => cases h

theorem makeDirectory_of_walk (h : t.walk here names = .entry q .directory) :
    t.makeDirectory here names = some t := by
  simp [makeDirectory, h]

/-- Of the directories one after the other, those that are made are on the way. -/
theorem makeEach_madeAlong (t : FileTree) (here : Place) (done names : List String) :
    t.MadeAlong (t.makeEach here done names).1 here (done ++ names) := by
  induction names generalizing t done with
  | nil => exact .refl ..
  | cons name rest ih =>
    rw [makeEach]
    cases hmake : t.makeDirectory here (done ++ [name]) with
    | none => exact .refl ..
    | some t₁ =>
      have hlater := ih t₁ (done ++ [name])
      rw [List.append_assoc] at hlater
      refine (makeDirectory_madeAlong hmake).trans hlater ?_
      exact (List.prefix_append_right_inj done).2 (List.prefix_append [name] rest)

theorem makeEach_of_walk (h : t.walk here (done ++ names) = .entry p .directory) :
    t.makeEach here done names = (t, true) := by
  induction names generalizing done with
  | nil => rfl
  | cons name rest ih =>
    have hsplit : done ++ name :: rest = (done ++ [name]) ++ rest := by simp
    rw [hsplit] at h
    obtain ⟨q, hq⟩ := exists_walk_of_prefix h (List.prefix_append _ _)
    rw [makeEach, makeDirectory_of_walk hq]
    exact ih h

theorem makeDirectories_of_usable (hne : path ≠ "") (hu : isUsable path = true) :
    t.makeDirectories path =
      match t.makeEach (t.start path) [] (steps path).dropLast with
      | (t₁, false) => (t₁, false)
      | (t₁, true) =>
        match t₁.makeDirectory (t.start path) (parts path) with
        | none => (t₁, false)
        | some t₂ => (t₂, true) := by
  rw [makeDirectories, if_neg hne, if_neg (by simp [hu])]
  rfl

/-- The directories that are made for a path are on the way to it. -/
theorem makeDirectories_madeAlong (t : FileTree) (path : String) :
    t.MadeAlong (t.makeDirectories path).1 (t.start path) (steps path) := by
  by_cases hpath : path ≠ "" ∧ isUsable path = true
  · rw [makeDirectories_of_usable hpath.1 hpath.2]
    have heach := makeEach_madeAlong t (t.start path) [] (steps path).dropLast
    have habove := heach.trans (.refl _ _ (steps path)) (List.dropLast_prefix _)
    split
    next t₁ hdone => simpa only [hdone] using habove
    next t₁ hdone =>
      rw [hdone] at habove
      split
      next => exact habove
      next t₂ hmake =>
        -- the last directory is made with the parts that do not count
        exact habove.trans (makeDirectory_madeAlong hmake).steps (List.prefix_refl _)
  · have hnone : (t.makeDirectories path).1 = t := by
      unfold makeDirectories
      split
      · rfl
      · rw [if_pos (by simp_all)]
    rw [hnone]
    exact .refl ..

/-- Where the path leads to a directory already, nothing is made. -/
theorem makeDirectories_of_walk (h : t.walk (t.start path) (parts path) = .entry p .directory)
    (hu : isUsable path = true) : t.makeDirectories path = (t, true) := by
  by_cases hne : path = ""
  · simp [makeDirectories, hne]
  · obtain ⟨q, hq⟩ := exists_walk_of_prefix (walk_steps.2 h) (List.dropLast_prefix _)
    have habove : t.makeEach (t.start path) [] (steps path).dropLast = (t, true) :=
      makeEach_of_walk hq
    rw [makeDirectories_of_usable hne hu, habove]
    simp only [makeDirectory_of_walk h]

end FileTree

end Schemata
