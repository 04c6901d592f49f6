import Schemata.Proofs.Skeleton.NormalForm
import Schemata.Proofs.Skeleton.Path

/-!
# Files stay in their directory

A path is read as components: the root or the current directory at its start, then steps up and
names.  The name of a skeleton's file has small letters, digits and underscores, besides a minus
sign if its time has one, and an ending.  So it is one component that is a name, and whatever name
the user gives, the path is the directory with this one component more, and leads to an entry of it.

* `Component`, `components` — paths as they are read;
* `Skeleton.components_pathIn` — the path of a skeleton is its directory and one name;
* `Skeleton.leads_inside` — in every file tree it leads to that name in the directory;
* `Skeleton.path_stays_in_directory` — this for all names and directories.
-/

namespace Schemata

open FileTree (parts steps)

/-! ### Components -/

/-- A part of a path as it is read. -/
inductive Component where
  /-- The root. -/
  | root
  /-- The current directory. -/
  | here
  /-- The directory above. -/
  | up
  /-- The entry with a name. -/
  | name (s : String)
deriving DecidableEq, Repr

/-- The component for a part that is neither empty nor `.`. -/
def Component.ofStep (part : String) : Component :=
  if part = ".." then .up else .name part

/-- Where a path starts, if it says so. -/
def leadingComponent (path : String) : List Component :=
  if path.toList.head? = some '/' then [.root]
  else if (parts path).head? = some "." then [.here]
  else []

/-- The components of a path.  Repeated slashes count as one, and `.` only at the start. -/
def components (path : String) : List Component :=
  leadingComponent path ++ (steps path).map Component.ofStep

namespace Skeleton

variable {s : Skeleton} {kind : SkeletonKind} {name : String} {seconds : Int} {c : Char}
  {t : FileTree} {p : Place}

/-! ### The name of the file -/

/-- The name of a file leads to the file and nowhere else. -/
theorem fileName_names (s : Skeleton) :
    ¬(s.fileName = "" ∨ s.fileName = ".") ∧ s.fileName ≠ ".." :=
  ⟨not_or.2 ⟨s.fileName_ne (by decide), s.fileName_ne (by decide)⟩, s.fileName_ne (by decide)⟩

theorem counts_fileName (s : Skeleton) : FileTree.counts s.fileName = true := by
  simpa [FileTree.counts] using s.fileName_names.1

/-- What the name of a file starts with. -/
def stamp : SkeletonKind → Int → String
  | .migration, seconds => "m" ++ Decimal.ofInt seconds ++ "_"
  | .model, _ | .seeder, _ => ""

theorem stem_eq (kind : SkeletonKind) (name : List Char) (seconds : Int) :
    stem kind name seconds = stamp kind seconds ++ String.ofList name := by
  cases kind <;> simp [stem, stamp]

/-- A minus sign is in the time of a migration only, if that is before the epoch. -/
theorem mem_stamp (h : c ∈ (stamp kind seconds).toList) :
    SkeletonName.isSmall c = true ∨ c = '_' ∨ c = '-' ∧ kind = .migration ∧ seconds < 0 := by
  cases kind with
  | migration =>
    have hmem : c = 'm' ∨ c ∈ (Decimal.ofInt seconds).toList ∨ c = '_' := by
      simpa [stamp] using h
    rcases hmem with rfl | hmem | rfl
    · exact .inl rfl
    · rcases Decimal.mem_ofInt hmem with hdigit | ⟨rfl, hneg⟩
      · exact .inl (by rw [SkeletonName.isSmall, hdigit, Bool.or_true])
      · exact .inr (.inr ⟨rfl, rfl, hneg⟩)
    · exact .inr (.inl rfl)
  | model => simp [stamp] at h
  | seeder => simp [stamp] at h

/-- The stem of a file has small letters, digits and underscores, and the stamp a minus sign. -/
theorem mem_stem {n : List Char} (h : SkeletonName.IsJoined n)
    (hc : c ∈ (stem kind n seconds).toList) :
    SkeletonName.isSmall c = true ∨ c = '_' ∨ c = '-' ∧ kind = .migration ∧ seconds < 0 := by
  rw [stem_eq, String.toList_append, List.mem_append, String.toList_ofList] at hc
  rcases hc with hc | hc
  · exact mem_stamp hc
  · exact (h.mem c hc).symm.imp_right .inl

/-! ### The path of the file -/

theorem steps_pathIn (h : '/' ∉ s.fileStem.toList) (dir : String) :
    steps (s.pathIn dir) = steps dir ++ [s.fileName] := by
  obtain ⟨lead, hparts, hlead⟩ := exists_parts_pathIn h dir
  rw [steps, hparts, List.filter_append, hlead, List.filter_singleton, counts_fileName]
  rfl

/-- The path says where it starts as the directory does. -/
theorem leadingComponent_pathIn (h : '/' ∉ s.fileStem.toList) (dir : String) :
    leadingComponent (s.pathIn dir) = leadingComponent dir := by
  have hhere : (parts (s.pathIn dir)).head? = some "." ↔ (parts dir).head? = some "." := by
    have hname : parts s.fileName = [s.fileName] := FileTree.parts_eq_singleton (not_mem_fileName h)
    have hdot : s.fileName ≠ "." := s.fileName_ne (by decide)
    rcases join_cases (not_mem_fileName h) dir with
      ⟨rfl, hpath⟩ | ⟨above, rfl, hpath⟩ | ⟨-, hpath⟩
    · rw [pathIn_eq_join, hpath, hname]
      exact iff_of_false (by simpa using hdot) (by decide)
    · have hdir := FileTree.parts_append_slash above ""
      rw [String.append_empty] at hdir
      rw [pathIn_eq_join, hpath, FileTree.parts_append_slash, hdir,
        List.head?_append_of_ne_nil _ (FileTree.parts_ne_nil above),
        List.head?_append_of_ne_nil _ (FileTree.parts_ne_nil above)]
    · rw [pathIn_eq_join, hpath, FileTree.parts_append_slash,
        List.head?_append_of_ne_nil _ (FileTree.parts_ne_nil dir)]
  simp only [leadingComponent, head?_pathIn h, hhere]

/-- The path has one component more than the directory, and this is a name. -/
theorem components_pathIn (h : '/' ∉ s.fileStem.toList) (dir : String) :
    components (s.pathIn dir) = components dir ++ [.name s.fileName] := by
  rw [components, components, steps_pathIn h, leadingComponent_pathIn h, List.map_append,
    List.append_assoc, List.map_singleton, Component.ofStep, if_neg s.fileName_names.2]

/-- In a file tree the path leads to a name in the place that the directory leads to. -/
theorem leads_inside (h : '/' ∉ s.fileStem.toList) {dir : String}
    (hfind : t.find (s.pathIn dir) = .free p ∨ ∃ e, t.find (s.pathIn dir) = .entry p e) :
    ∃ d, t.walk (t.start dir) (steps dir) = .entry d .directory ∧ p = d ++ [s.fileName] := by
  obtain ⟨lead, hparts, hlead⟩ := exists_parts_pathIn h dir
  rw [← hlead]
  simp only [FileTree.walk_filter_counts]
  rcases hfind with hfree | ⟨e, hentry⟩
  · obtain ⟨-, hwalk⟩ := FileTree.find_eq_free_iff.1 hfree
    rw [hparts, start_pathIn h] at hwalk
    exact FileTree.exists_walk_of_concat_free hwalk (s.fileName_ne (by decide))
  · obtain ⟨-, hwalk⟩ := FileTree.find_eq_entry_iff.1 hentry
    rw [hparts, start_pathIn h] at hwalk
    obtain ⟨d, hd, hlast⟩ := FileTree.exists_walk_of_append hwalk (by simp)
    refine ⟨d, hd, ?_⟩
    cases FileTree.first_of_walk hlast with
    | on hname hrest =>
      -- the entry is a directory, which the name leads to
      cases hrest
      exact FileTree.eq_of_enter? hname s.fileName_names.1 s.fileName_names.2
    | file _ _ _ => rfl

/-- **Files stay in their directory.**  The path of a skeleton is the directory, a slash unless the
directory is empty or ends in one, the stem of the file and its ending, whatever the user gives as a
name.  The stem is not empty and has small letters, digits and underscores, besides a minus sign
before a time before the epoch.  So the components of the path are those of the directory and one
name, and where it leads in a file tree is that name in the place to which the directory leads. -/
theorem path_stays_in_directory (h : render kind name seconds = .ok s) (dir : String) :
    s.pathIn dir =
      dir ++ (if dir = "" ∨ dir.toList.getLast? = some '/' then "" else "/") ++
        s.fileStem ++ ".rs" ∧
    s.fileStem ≠ "" ∧
    (∀ c ∈ s.fileStem.toList, SkeletonName.isSmall c = true ∨ c = '_' ∨
      c = '-' ∧ kind = .migration ∧ seconds < 0) ∧
    (∃ n, SkeletonName.normalize? name.toList = some n ∧
      s.fileStem = stamp kind seconds ++ String.ofList n ∧ '-' ∉ n) ∧
    components (s.pathIn dir) = components dir ++ [.name s.fileName] ∧
    (s.fileName ≠ "." ∧ s.fileName ≠ ".." ∧
      '/' ∉ s.fileName.toList ∧ '\x00' ∉ s.fileName.toList) ∧
    ∀ (t : FileTree) p,
      (t.find (s.pathIn dir) = .free p ∨ ∃ e, t.find (s.pathIn dir) = .entry p e) →
      ∃ d, t.walk (t.start dir) (steps dir) = .entry d .directory ∧ p = d ++ [s.fileName] := by
  have hslash := not_mem_fileStem h
  obtain ⟨n, hn, hs⟩ := render_eq_ok_iff.1 h
  have hjoined := (SkeletonName.isNormal_of_normalize? hn).isJoined
  have hfile : s.fileStem = stem kind n seconds := by rw [hs]; rfl
  have hstem : s.fileStem = stamp kind seconds ++ String.ofList n :=
    hfile.trans (stem_eq kind n seconds)
  have hchars : ∀ c ∈ s.fileStem.toList, SkeletonName.isSmall c = true ∨ c = '_' ∨
      c = '-' ∧ kind = .migration ∧ seconds < 0 := by
    rw [hfile]
    exact fun c => mem_stem hjoined
  refine ⟨?_, ?_, hchars, ⟨n, hn, hstem, ?_⟩, components_pathIn hslash dir,
    ⟨s.fileName_ne (by decide), s.fileName_ne (by decide), not_mem_fileName hslash, ?_⟩,
    fun t p => leads_inside hslash⟩
  · rw [pathIn_eq_join, join_of_not_mem (not_mem_fileName hslash), fileName]
    split <;> simp [String.append_assoc]
  · intro hempty
    have hnil : stamp kind seconds = "" ∧ n = [] := by simpa using hstem.symm.trans hempty
    exact hjoined.ne_nil hnil.2
  · intro hminus
    rcases hjoined.mem _ hminus with heq | hsmall
    · cases heq
    · cases hsmall
  · intro hnul
    rw [fileName, String.toList_append, List.mem_append] at hnul
    rcases hnul with hnul | hnul
    · rcases hchars _ hnul with hsmall | heq | ⟨heq, -⟩
      · cases hsmall
      · cases heq
      · cases heq
    · exact absurd hnul (by decide)

/-- A name that is a path itself leads nowhere but to a file in the directory. -/
theorem hostile_name_stays :
    render .migration "/../../etc/\x00Passwd.." (-5) =
      .ok (ofName .migration "etc_passwd".toList (-5)) ∧
    components ((ofName .migration "etc_passwd".toList (-5)).pathIn "./a/../b/") =
      [.here, .name "a", .up, .name "b", .name "m-5_etc_passwd.rs"] := by
  have hrender : render .migration "/../../etc/\x00Passwd.." (-5) =
      .ok (ofName .migration "etc_passwd".toList (-5)) :=
    render_eq_ok_iff.2 ⟨_, by decide +kernel, rfl⟩
  obtain ⟨-, -, -, -, hcomponents, -⟩ := path_stays_in_directory hrender "./a/../b/"
  have hdir : components "./a/../b/" = [.here, .name "a", .up, .name "b"] := by decide +kernel
  have hfile : (ofName .migration "etc_passwd".toList (-5)).fileName = "m-5_etc_passwd.rs" := by
    decide +kernel
  refine ⟨hrender, ?_⟩
  rw [hcomponents, hdir, hfile]
  rfl

end Skeleton

end Schemata
