import Schemata.Proofs.FileTree.Walking
import Schemata.Proofs.Skeleton.Alphabet

/-!
# Paths of skeletons

The path of a skeleton is that of its directory with the file name as one more part, whether the
directory is empty, ends in a slash or does neither.

* `Skeleton.fileName` — the name of the file;
* `Skeleton.exists_parts_pathIn` — the parts of the path, of which the last is the file name;
* `Skeleton.head?_pathIn`, `Skeleton.start_pathIn`, `Skeleton.isUsable_of_pathIn` — what the
  directory shares with the path.
-/

namespace Schemata

namespace Skeleton

open FileTree (parts steps counts)

variable {s : Skeleton} {t : FileTree} {p : Place}

/-- The name of the file. -/
def fileName (s : Skeleton) : String :=
  s.fileStem ++ ".rs"

theorem pathIn_eq_join (s : Skeleton) (dir : String) : s.pathIn dir = join dir s.fileName := rfl

theorem fileName_ne (s : Skeleton) {name : String} (h : name.length < 3) : s.fileName ≠ name := by
  intro heq
  have hending : ".rs".length = 3 := rfl
  have hlength : s.fileName.length = s.fileStem.length + 3 := by simp [fileName, hending]
  rw [heq] at hlength
  omega

theorem not_mem_fileName (h : '/' ∉ s.fileStem.toList) : '/' ∉ s.fileName.toList := by
  simp [fileName, h]

/-- The path of an entry that is no path from the root starts with the directory. -/
theorem join_of_not_mem {name : String} (h : '/' ∉ name.toList) (dir : String) :
    join dir name =
      if dir = "" ∨ dir.toList.getLast? = some '/' then dir ++ name else dir ++ "/" ++ name := by
  have hroot : name.toList.head? ≠ some '/' := fun hslash => h (List.mem_of_head? hslash)
  rw [join, if_neg hroot]

/-- The path of a name is put together in one of three ways. -/
theorem join_cases {name : String} (h : '/' ∉ name.toList) (dir : String) :
    (dir = "" ∧ join dir name = name) ∨
    (∃ above, dir = above ++ "/" ∧ join dir name = above ++ "/" ++ name) ∨
    dir ≠ "" ∧ join dir name = dir ++ "/" ++ name := by
  rw [join_of_not_mem h]
  by_cases hempty : dir = ""
  · exact .inl ⟨hempty, by simp [hempty]⟩
  · by_cases hslash : dir.toList.getLast? = some '/'
    · obtain ⟨cs, hcs⟩ := List.getLast?_eq_some_iff.1 hslash
      have hdir : dir = String.ofList cs ++ "/" := by
        rw [← String.toList_inj, hcs]
        simp
      refine .inr (.inl ⟨String.ofList cs, hdir, ?_⟩)
      rw [if_pos (.inr hslash), ← hdir]
    · exact .inr (.inr ⟨hempty, by simp [hempty, hslash]⟩)

/-- The parts of the path that come before the file name lead as far as the directory does. -/
theorem exists_parts_pathIn (h : '/' ∉ s.fileStem.toList) (dir : String) :
    ∃ lead, parts (s.pathIn dir) = lead ++ [s.fileName] ∧ lead.filter counts = steps dir := by
  have hname : parts s.fileName = [s.fileName] := FileTree.parts_eq_singleton (not_mem_fileName h)
  rcases join_cases (not_mem_fileName h) dir with
    ⟨rfl, hpath⟩ | ⟨above, rfl, hpath⟩ | ⟨-, hpath⟩
  · exact ⟨[], by rw [pathIn_eq_join, hpath, hname, List.nil_append], rfl⟩
  · refine ⟨parts above, by rw [pathIn_eq_join, hpath, FileTree.parts_append_slash, hname], ?_⟩
    -- the directory has one more part, which does not count
    have hparts := FileTree.parts_append_slash above ""
    rw [String.append_empty] at hparts
    rw [steps, hparts, List.filter_append]
    exact (List.append_nil _).symm
  · exact ⟨parts dir, by rw [pathIn_eq_join, hpath, FileTree.parts_append_slash, hname], rfl⟩

theorem head?_toList_append {a : String} (h : a ≠ "") (b : String) :
    (a ++ b).toList.head? = a.toList.head? := by
  cases ha : a.toList with
  | nil => exact absurd (String.toList_eq_nil_iff.1 ha) h
  | cons c cs => simp [ha]

/-- The path leads from the root exactly if the directory does. -/
theorem head?_pathIn (h : '/' ∉ s.fileStem.toList) (dir : String) :
    (s.pathIn dir).toList.head? = some '/' ↔ dir.toList.head? = some '/' := by
  rcases join_cases (not_mem_fileName h) dir with
    ⟨rfl, hpath⟩ | ⟨above, rfl, hpath⟩ | ⟨hne, hpath⟩
  · have hhead : s.fileName.toList.head? ≠ some '/' :=
      fun hslash => not_mem_fileName h (List.mem_of_head? hslash)
    rw [pathIn_eq_join, hpath]
    exact iff_of_false hhead (by simp)
  · rw [pathIn_eq_join, hpath, head?_toList_append (by simp)]
  · rw [pathIn_eq_join, hpath, String.append_assoc, head?_toList_append hne]

/-- The path starts where the directory does. -/
theorem start_pathIn (h : '/' ∉ s.fileStem.toList) (t : FileTree) (dir : String) :
    t.start (s.pathIn dir) = t.start dir := by
  simp only [FileTree.start, head?_pathIn h]

/-- A directory may be looked up if a path in it may. -/
theorem isUsable_of_pathIn (hs : '/' ∉ s.fileStem.toList) {dir : String}
    (h : FileTree.isUsable (s.pathIn dir) = true) : FileTree.isUsable dir = true := by
  rw [FileTree.isUsable, Bool.and_eq_true, decide_eq_true_eq] at h ⊢
  rcases join_cases (not_mem_fileName hs) dir with
    ⟨rfl, hpath⟩ | ⟨above, rfl, hpath⟩ | ⟨-, hpath⟩
  · decide
  · rw [pathIn_eq_join, hpath] at h
    have hsize : (above ++ "/" ++ s.fileName).utf8ByteSize = _ := String.utf8ByteSize_append
    exact ⟨by simp_all, by omega⟩
  · rw [pathIn_eq_join, hpath, String.append_assoc] at h
    have hsize : (dir ++ ("/" ++ s.fileName)).utf8ByteSize = _ := String.utf8ByteSize_append
    exact ⟨by simp_all, by omega⟩

end Skeleton

end Schemata
