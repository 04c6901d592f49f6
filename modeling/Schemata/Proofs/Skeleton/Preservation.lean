import Schemata.Proofs.FileTree.Growth
import Schemata.Proofs.Skeleton.Path
import Schemata.Skeleton.Write

/-!
# What generating leaves alone

A skeleton is written where nothing is, in a directory that is made if need be.  So whatever is
generated, and in whatever order, every file that is once there stays there with its text.

* `Skeleton.Request`, `FileTree.afterAll` — requests, and the tree after a sequence of them;
* `Skeleton.write_cases` — all that writing can do;
* `Skeleton.Wrote` — what a request that succeeds leaves;
* `Skeleton.write_of_occupied` — a path that leads to an entry is refused;
* `FileTree.generation_keeps_files` — sequences of requests.
-/

namespace Schemata

open FileTree (parts steps)

namespace Skeleton

variable {s : Skeleton} {dir : String} {t t' : FileTree} {p q d : Place}

/-! ### Writing -/

/-- All that writing can do: the directories are made as far as it goes, and then the file is added
at a free place or not at all. -/
theorem write_cases (s : Skeleton) (dir : String) (t : FileTree) :
    (∃ p, (t.makeDirectories dir).1.find (s.pathIn dir) = .free p ∧
      (s.write dir t).result = .ok (s.pathIn dir) ∧
      (s.write dir t).tree = (t.makeDirectories dir).1.add p (.file s.contents)) ∨
    ∃ e, (e = .io ∨ e = .fileExists (s.pathIn dir)) ∧ (s.write dir t).result = .error e ∧
      (s.write dir t).tree = (t.makeDirectories dir).1 := by
  unfold write
  obtain ⟨t₁, done⟩ := t.makeDirectories dir
  cases done with
  | false => exact .inr ⟨_, .inl rfl, rfl, rfl⟩
  | true =>
    cases hfind : t₁.find (s.pathIn dir) with
    | entry p e => exact .inr ⟨_, .inr rfl, by simp [FileTree.create, hfind]⟩
    | nowhere => exact .inr ⟨_, .inl rfl, by simp [FileTree.create, hfind]⟩
    | free p => exact .inl ⟨p, rfl, by simp [FileTree.create, hfind]⟩

/-- A path that leads to an entry is refused, and nothing is made for it. -/
theorem write_of_occupied (hs : '/' ∉ s.fileStem.toList) {e : Entry}
    (h : t.find (s.pathIn dir) = .entry p e) :
    (s.write dir t).result = .error (.fileExists (s.pathIn dir)) ∧ (s.write dir t).tree = t := by
  obtain ⟨husable, hwalk⟩ := FileTree.find_eq_entry_iff.1 h
  obtain ⟨lead, hparts, hlead⟩ := exists_parts_pathIn hs dir
  rw [hparts, start_pathIn hs] at hwalk
  -- what comes before the file name leads to a directory, so the directory is there
  obtain ⟨q, hq, -⟩ := FileTree.exists_walk_of_append hwalk (by simp)
  rw [← FileTree.walk_filter_counts, hlead, FileTree.walk_steps] at hq
  have hmake := FileTree.makeDirectories_of_walk hq (isUsable_of_pathIn hs husable)
  simp [write, hmake, FileTree.create, h]

/-- The tree after the skeleton was written into the directory at the place `d`. -/
structure Wrote (s : Skeleton) (dir : String) (t t' : FileTree) (d : Place) : Prop where
  /-- There was nothing in the place of the file. -/
  free : t.at? (d ++ [s.fileName]) = none
  /-- The path leads to the file, which has the text of the skeleton. -/
  found : t'.find (s.pathIn dir) = .entry (d ++ [s.fileName]) (.file s.contents)
  /-- The file is in the directory. -/
  inside : t'.walk (t'.start dir) (steps dir) = .entry d .directory
  /-- All else that is new are directories on the way to it. -/
  others : ∀ q e, t.at? q = none → t'.at? q = some e →
    q = d ++ [s.fileName] ∨ e = .directory ∧ t'.OnTheWay (t'.start dir) (steps dir) q

namespace Wrote

/-- The file is in its place. -/
theorem at?_eq (h : s.Wrote dir t t' d) :
    t'.at? (d ++ [s.fileName]) = some (.file s.contents) :=
  FileTree.at?_of_walk_file (FileTree.find_eq_entry_iff.1 h.found).2

/-- On a way that does not go up, all directories are above the file. -/
theorem prefix_of_new (h : s.Wrote dir t t' d) (hup : ".." ∉ parts dir) {e : Entry}
    (hq : t.at? q = none) (hq' : t'.at? q = some e) : q <+: d ++ [s.fileName] := by
  rcases h.others q e hq hq' with rfl | ⟨-, lead, ⟨rest, hrest⟩, hwalk⟩
  · exact List.prefix_refl _
  · have hinside := h.inside
    rw [← hrest, FileTree.walk_append hwalk] at hinside
    have hrest : ".." ∉ rest := by
      intro hmem
      have hsteps : ".." ∈ steps dir := hrest ▸ List.mem_append_right lead hmem
      exact hup (List.mem_of_mem_filter hsteps)
    exact (FileTree.prefix_of_walk hinside hrest).trans (List.prefix_append _ _)

end Wrote

/-- Once the directories are made, a file at a free place is written. -/
theorem exists_wrote (hs : '/' ∉ s.fileStem.toList)
    (h : (t.makeDirectories dir).1.find (s.pathIn dir) = .free p) :
    ∃ d, s.Wrote dir t ((t.makeDirectories dir).1.add p (.file s.contents)) d := by
  have hname : s.fileName ≠ "" := s.fileName_ne (by decide)
  have hmade := FileTree.makeDirectories_madeAlong t dir
  generalize (t.makeDirectories dir).1 = t₁ at h hmade
  obtain ⟨husable, hwalk⟩ := FileTree.find_eq_free_iff.1 h
  obtain ⟨lead, hparts, hlead⟩ := exists_parts_pathIn hs dir
  have hnone : t₁.at? p = none := FileTree.at?_of_walk_free hwalk
  have hadd : t₁.ContinuedBy (t₁.add p (.file s.contents)) := .add _ hnone
  have hfile := FileTree.walk_add_free (e := .file s.contents) hwalk
    (.inr (by simp [hparts, hname]))
  rw [hparts] at hwalk
  obtain ⟨d, hd, rfl⟩ :=
    FileTree.exists_walk_of_concat_free hwalk hname
  rw [start_pathIn hs, ← FileTree.walk_filter_counts, hlead] at hd
  refine ⟨d, ?_, ?_, ?_, fun q e hq hq' => ?_⟩
  · cases hold : t.at? (d ++ [s.fileName]) with
    | none => rfl
    | some e => cases hnone.symm.trans (hmade.continued.kept _ e hold)
  · exact FileTree.find_eq_entry_iff.2 ⟨husable, by rwa [hadd.start]⟩
  · rw [hadd.start]
    exact hadd.walk hd
  · -- what is new was made with the directories or is the file
    cases hq₁ : t₁.at? q with
    | none => exact .inl (FileTree.eq_of_at?_add hnone hq₁ hq').1
    | some e₁ =>
      obtain ⟨he₁, lead', hlead', hwalk'⟩ := hmade.new q e₁ hq hq₁
      have he : e = e₁ := Option.some.inj (hq'.symm.trans (hadd.kept q e₁ hq₁))
      rw [← hmade.continued.start] at hwalk'
      refine .inr ⟨he.trans he₁, lead', hlead', ?_⟩
      rw [hadd.start]
      exact hadd.walk hwalk'

/-! ### Requests -/

/-- A skeleton that is asked for. -/
structure Request where
  /-- What it is for. -/
  kind : SkeletonKind
  /-- The name that the user gives. -/
  name : String
  /-- The time in seconds. -/
  seconds : Int
  /-- The directory. -/
  dir : String

namespace Request

/-- The skeleton, if there is one for the name. -/
def skeleton (r : Request) : Except TaskError Skeleton :=
  render r.kind r.name r.seconds

/-- What the request comes to. -/
def write (r : Request) (t : FileTree) : Written :=
  generate r.kind r.name r.seconds r.dir t

variable {r : Request} {path : String} {error : TaskError}

theorem write_of_skeleton (h : r.skeleton = .ok s) (t : FileTree) :
    r.write t = s.write r.dir t := by
  simp only [skeleton] at h
  simp [write, generate, h]

/-- Without a skeleton nothing is touched. -/
theorem write_of_error (h : r.skeleton = .error error) (t : FileTree) :
    r.write t = { result := .error error, tree := t } := by
  simp only [skeleton] at h
  simp [write, generate, h]

/-- A skeleton is refused for the lack of a name. -/
theorem eq_missingName_of_error (h : r.skeleton = .error error) :
    error = .missingName r.kind := by
  simp only [skeleton, render] at h
  split at h <;> cases h
  rfl

/-- What success is. -/
theorem write_ok (h : (r.write t).result = .ok path) :
    ∃ s d, r.skeleton = .ok s ∧ path = s.pathIn r.dir ∧ s.Wrote r.dir t (r.write t).tree d := by
  cases hs : r.skeleton with
  | error e => simp [write_of_error hs] at h
  | ok s =>
    rw [write_of_skeleton hs] at h ⊢
    rcases write_cases s r.dir t with ⟨p, hfree, hresult, htree⟩ | ⟨e, -, hresult, -⟩
    · obtain ⟨d, hd⟩ := exists_wrote (not_mem_fileStem hs) hfree
      rw [hresult] at h
      cases h
      exact ⟨s, d, rfl, rfl, htree ▸ hd⟩
    · cases hresult.symm.trans h

/-- What failure is: there is no skeleton, or no more than directories were made. -/
theorem write_error (h : (r.write t).result = .error error) :
    error = .missingName r.kind ∧ (r.write t).tree = t ∨
    ∃ s, r.skeleton = .ok s ∧ (error = .io ∨ error = .fileExists (s.pathIn r.dir)) ∧
      t.MadeAlong (r.write t).tree (t.start r.dir) (steps r.dir) := by
  cases hs : r.skeleton with
  | error e =>
    rw [write_of_error hs] at h ⊢
    cases h
    exact .inl ⟨eq_missingName_of_error hs, rfl⟩
  | ok s =>
    rw [write_of_skeleton hs] at h ⊢
    rcases write_cases s r.dir t with ⟨p, -, hresult, -⟩ | ⟨e, he, hresult, htree⟩
    · cases hresult.symm.trans h
    · cases hresult.symm.trans h
      exact .inr ⟨s, rfl, he, htree ▸ FileTree.makeDirectories_madeAlong t r.dir⟩

/-- A request takes nothing away. -/
theorem continued (r : Request) (t : FileTree) : t.ContinuedBy (r.write t).tree := by
  cases hs : r.skeleton with
  | error e =>
    rw [write_of_error hs]
    exact .refl t
  | ok s =>
    rw [write_of_skeleton hs]
    have hmade := (FileTree.makeDirectories_madeAlong t r.dir).continued
    rcases write_cases s r.dir t with ⟨p, hfree, -, htree⟩ | ⟨e, -, -, htree⟩
    · rw [htree]
      exact hmade.trans (.add _ (FileTree.at?_of_walk_free (FileTree.find_eq_free_iff.1 hfree).2))
    · rwa [htree]

end Request

end Skeleton

namespace FileTree

open Skeleton

/-- The tree after all requests, in order. -/
def afterAll (t : FileTree) (rs : List Request) : FileTree :=
  rs.foldl (fun t r => (r.write t).tree) t

@[simp] theorem afterAll_append (t : FileTree) (rs rs' : List Request) :
    t.afterAll (rs ++ rs') = (t.afterAll rs).afterAll rs' :=
  List.foldl_append

@[simp] theorem afterAll_cons (t : FileTree) (r : Request) (rs : List Request) :
    t.afterAll (r :: rs) = (r.write t).tree.afterAll rs :=
  rfl

/-- Requests take nothing away. -/
theorem continued_afterAll (t : FileTree) (rs : List Request) : t.ContinuedBy (t.afterAll rs) := by
  induction rs generalizing t with
  | nil => exact .refl t
  | cons r rs ih => exact (r.continued t).trans (ih _)

/-- Where the skeleton of a request is written, no later one is. -/
theorem place_ne_of_wrote {t t₁ t₂ t₃ : FileTree} {s s' : Skeleton} {dir dir' : String}
    {d d' : Place} (h : s.Wrote dir t t₁ d) (hcontinued : t₁.ContinuedBy t₂)
    (h' : s'.Wrote dir' t₂ t₃ d') : d ++ [s.fileName] ≠ d' ++ [s'.fileName] := by
  intro heq
  have hthere := hcontinued.kept _ _ h.at?_eq
  rw [heq, h'.free] at hthere
  cases hthere

/-- A path under which a skeleton was written leads to it from then on. -/
theorem find_of_wrote {t t₁ t₂ : FileTree} {s : Skeleton} {dir : String} {d : Place}
    (h : s.Wrote dir t t₁ d) (hcontinued : t₁.ContinuedBy t₂) :
    t₂.find (s.pathIn dir) = .entry (d ++ [s.fileName]) (.file s.contents) := by
  obtain ⟨husable, hwalk⟩ := find_eq_entry_iff.1 h.found
  exact find_eq_entry_iff.2 ⟨husable, by rw [hcontinued.start]; exact hcontinued.walk hwalk⟩

/-- Of a sequence of requests, each one leaves what is there.  Success adds one file, and
directories on the way to its directory; failure adds no file; and no two write the same file. -/
theorem generation_keeps_files (t : FileTree) (before : List Request) (r : Request)
    (later : List Request) :
    let here := t.afterAll before
    let written := r.write here
    let last := t.afterAll (before ++ r :: later)
    (∀ p e, t.at? p = some e ∨ written.tree.at? p = some e → last.at? p = some e) ∧
    (∀ path, written.result = .ok path → ∃ s d,
      r.skeleton = .ok s ∧ path = s.pathIn r.dir ∧
      s.Wrote r.dir here written.tree d ∧
      last.find path = .entry (d ++ [s.fileName]) (.file s.contents) ∧
      (".." ∉ parts r.dir → ∀ q e, here.at? q = none → written.tree.at? q = some e →
        q <+: d ++ [s.fileName])) ∧
    (∀ error, written.result = .error error →
      (∀ p contents, written.tree.at? p = some (.file contents) ↔
        here.at? p = some (.file contents)) ∧
      (error = .missingName r.kind ∧ written.tree = here ∨
        ∃ s, r.skeleton = .ok s ∧ (error = .io ∨ error = .fileExists (s.pathIn r.dir)))) ∧
    (∀ s p e, r.skeleton = .ok s → here.find (s.pathIn r.dir) = .entry p e →
      written.result = .error (.fileExists (s.pathIn r.dir)) ∧ written.tree = here) ∧
    (∀ between r' rest, later = between ++ r' :: rest →
      let there := t.afterAll (before ++ r :: between)
      ∀ path path', written.result = .ok path → (r'.write there).result = .ok path' →
        path ≠ path' ∧
        ∀ (s s' : Skeleton) d d', s.Wrote r.dir here written.tree d →
          s'.Wrote r'.dir there (r'.write there).tree d' →
          d ++ [s.fileName] ≠ d' ++ [s'.fileName]) := by
  intro here written last
  have hhere : t.ContinuedBy here := continued_afterAll t before
  have hwritten : here.ContinuedBy written.tree := r.continued here
  have hafter (rs : List Request) : written.tree.ContinuedBy (t.afterAll (before ++ r :: rs)) := by
    rw [afterAll_append, afterAll_cons]
    exact continued_afterAll _ rs
  have hlast : written.tree.ContinuedBy last := hafter later
  refine ⟨?_, ?_, ?_, ?_, ?_⟩
  · rintro p e (h | h)
    · exact ((hhere.trans hwritten).trans hlast).kept p e h
    · exact hlast.kept p e h
  · intro path h
    obtain ⟨s, d, hs, rfl, hd⟩ := Request.write_ok h
    exact ⟨s, d, hs, rfl, hd, find_of_wrote hd hlast, fun hup q e => hd.prefix_of_new hup⟩
  · intro error h
    rcases Request.write_error h with ⟨rfl, htree⟩ | ⟨s, hs, he, hmade⟩
    · refine ⟨fun p contents => ?_, .inl ⟨rfl, htree⟩⟩
      rw [show written.tree = here from htree]
    · exact ⟨fun p contents => hmade.file_iff, .inr ⟨s, hs, he⟩⟩
  · intro s p e hs h
    have hwrite : written = s.write r.dir here := Request.write_of_skeleton hs here
    rw [hwrite]
    exact write_of_occupied (not_mem_fileStem hs) h
  · rintro between r' rest - there path path' h h'
    have hthere : written.tree.ContinuedBy there := hafter between
    obtain ⟨s, d, hs, rfl, hd⟩ := Request.write_ok h
    obtain ⟨s', d', hs', rfl, hd'⟩ := Request.write_ok h'
    refine ⟨fun heq => ?_, fun _ _ _ _ hw hw' => place_ne_of_wrote hw hthere hw'⟩
    -- the second request would find the file of the first under its path
    have hfound := find_of_wrote hd hthere
    rw [heq] at hfound
    have hrefused := (write_of_occupied (not_mem_fileStem hs') hfound).1
    rw [← Request.write_of_skeleton hs'] at hrefused
    cases hrefused.symm.trans h'

/-- On a way that goes up again, a directory is made that is not above the file. -/
theorem generation_makes_detour :
    let t := bare ["work"]
    let r : Request := { kind := .model, name := "Post", seconds := 0, dir := "drafts/../models" }
    (r.write t).result = .ok "drafts/../models/post.rs" ∧
    (r.write t).tree.find "drafts/../models/post.rs" =
      .entry ["work", "models", "post.rs"] (.file (fillTemplate
        { typeName := "Post", table := "post", fileStem := "post" } SkeletonKind.model.template)) ∧
    t.at? ["work", "drafts"] = none ∧
    (r.write t).tree.at? ["work", "drafts"] = some .directory ∧
    ¬ ["work", "drafts"] <+: ["work", "models", "post.rs"] := by
  decide +kernel

end FileTree

end Schemata
