import Schemata.Console.Run
import Schemata.Proofs.Skeleton.Alphabet
import Schemata.Proofs.Skeleton.Preservation
import Schemata.Proofs.Skeleton.Underscores
import Schemata.Proofs.Text.LetterCase
import Schemata.Proofs.Text.Words

/-!
# What is kept of a name

The usable characters of a name are the ASCII letters and digits among its characters in lower case.
On the way to the normal form the name is taken apart into words, joined again, and freed of
everything else, and at no stage is a usable character lost, doubled or moved.  So the usable
characters tell whether there is a normal form.

* `SkeletonName.usable` — the usable characters;
* `SkeletonName.joined` — the last stage, which is the normal form if it starts with a letter;
* `SkeletonName.filter_of_mem_stages` — the usable characters of every stage;
* `SkeletonName.normalize?_eq_none_iff` — which names have no normal form;
* `SkeletonName.usable_characters_are_kept` — names, skeletons and the command that makes them.
-/

namespace Schemata

namespace SkeletonName

variable {c : Char} {name s : List Char}

/-! ### Usable characters -/

/-- The ASCII letters and digits among the characters of the name in lower case. -/
def usable (name : List Char) : List Char :=
  (name.flatMap lowercase).filter Char.isAlphanum

/-- No usable character comes from one that is no letter or number. -/
theorem usable_filter_isAlphanumeric (name : List Char) :
    usable (name.filter isAlphanumeric) = usable name := by
  induction name with
  | nil => rfl
  | cons c name ih =>
    unfold usable at ih ⊢
    cases hc : isAlphanumeric c with
    | true => rw [List.filter_cons_of_pos hc, List.flatMap_cons, List.flatMap_cons,
        List.filter_append, List.filter_append, ih]
    | false =>
      have hnone : (lowercase c).filter Char.isAlphanum = [] := by
        refine List.filter_eq_nil_iff.2 fun d hd hd' => ?_
        rw [isAlphanumeric_of_mem_lowercase hd hd'] at hc
        cases hc
      rw [List.filter_cons_of_neg (by simp [hc]), ih, List.flatMap_cons, List.filter_append, hnone,
        List.nil_append]

/-! ### Stages -/

/-- The last stage on the way to the normal form. -/
def joined (name : List Char) : List Char :=
  trimUnderscores (collapse ((snake name).map keepUsable))

/-- The stages on the way to the normal form: words in lower case with underscores between them,
other characters made underscores, runs of underscores made one, and underscores at the ends cut
off. -/
def stages (name : List Char) : List (List Char) :=
  [snake name, (snake name).map keepUsable, collapse ((snake name).map keepUsable), joined name]

/-- Joining words in lower case adds underscores to their letters and numbers. -/
theorem filter_snake {p : Char → Bool} (hp : p '_' = false) (name : List Char) :
    (snake name).filter p = ((name.filter isAlphanumeric).flatMap lowercase).filter p := by
  have hwords : ((words name).map (·.flatMap lowercase)).flatten =
      (words name).flatten.flatMap lowercase := by
    rw [List.flatMap_def, List.map_flatten, List.flatten_flatten, List.map_map]
    rfl
  rw [snake, filter_intercalate hp, hwords, flatten_words]

theorem filter_map_keepUsable (cs : List Char) :
    (cs.map keepUsable).filter Char.isAlphanum = cs.filter Char.isAlphanum := by
  induction cs with
  | nil => rfl
  | cons c cs ih =>
    rw [List.map_cons]
    cases hc : c.isAlphanum with
    | true =>
      rw [keepUsable, hc, if_pos rfl, List.filter_cons_of_pos hc, List.filter_cons_of_pos hc, ih]
    | false =>
      rw [keepUsable, hc, if_neg Bool.false_ne_true, List.filter_cons_of_neg (by decide),
        List.filter_cons_of_neg (by simp [hc]), ih]

/-- At no stage is a usable character lost, doubled or moved. -/
theorem filter_of_mem_stages {stage : List Char} (h : stage ∈ stages name) :
    stage.filter Char.isAlphanum = usable name := by
  have hsnake : (snake name).filter Char.isAlphanum = usable name := by
    rw [filter_snake rfl, ← usable_filter_isAlphanumeric, usable]
  simp only [stages, joined, List.mem_cons, List.not_mem_nil, or_false] at h
  rcases h with rfl | rfl | rfl | rfl
  · exact hsnake
  · rw [filter_map_keepUsable, hsnake]
  · rw [filter_collapse rfl, filter_map_keepUsable, hsnake]
  · rw [filter_trimUnderscores rfl, filter_collapse rfl, filter_map_keepUsable, hsnake]

/-! ### The last stage -/

/-- No capital letter of ASCII is left in the words. -/
theorem isUpper_of_mem_snake (h : c ∈ snake name) : c.isUpper = false := by
  have hnone : (snake name).filter Char.isUpper = [] := by
    rw [filter_snake rfl, List.filter_eq_nil_iff]
    intro d hd
    obtain ⟨e, -, he⟩ := List.mem_flatMap.1 hd
    simp [isUpper_of_mem_lowercase he]
  simpa using List.filter_eq_nil_iff.1 hnone c h

/-- The last stage has small letters, digits and underscores. -/
theorem mem_joined (h : c ∈ joined name) : c = '_' ∨ c.isAlphanum = true ∧ c.isUpper = false := by
  obtain ⟨d, hd, rfl⟩ := List.mem_map.1 (mem_of_mem_collapse (mem_of_mem_trimUnderscores h))
  unfold keepUsable
  split
  next halnum => exact .inr ⟨halnum, isUpper_of_mem_snake hd⟩
  next => exact .inl rfl

/-- Without its underscores the last stage is what is usable. -/
theorem filter_ne_underscore_joined (name : List Char) :
    (joined name).filter (· ≠ '_') = usable name := by
  have hlast : joined name ∈ stages name := by simp [stages]
  rw [← filter_of_mem_stages hlast]
  refine List.filter_congr fun c hc => ?_
  rcases mem_joined hc with rfl | ⟨halnum, -⟩
  · rfl
  · have hne : c ≠ '_' := by
      rintro rfl
      cases halnum
    simp [halnum, hne]

/-- The last stage starts with the first usable character. -/
theorem head?_joined (name : List Char) : (joined name).head? = (usable name).head? := by
  have hhead : (joined name).head? ≠ some '_' := head?_trimUnderscores _
  rw [← filter_ne_underscore_joined]
  cases h : joined name with
  | nil => rfl
  | cons c cs =>
    have hc : c ≠ '_' := by simpa [h] using hhead
    rw [List.filter_cons_of_pos (by simpa using hc)]
    rfl

/-- The last stage is the normal form, unless nothing is usable or a digit is the first. -/
theorem normalize?_eq (name : List Char) :
    normalize? name =
      if (usable name).head?.all Char.isDigit then none else some (joined name) := by
  rw [← head?_joined, normalize?, ← joined]
  cases joined name <;> rfl

/-- The name has no usable character, or a digit for the first one. -/
def IsUnusable (name : List Char) : Prop :=
  usable name = [] ∨ ∃ c ∈ (usable name).head?, c.isDigit = true

theorem isUnusable_iff : IsUnusable name ↔ (usable name).head?.all Char.isDigit = true := by
  rw [IsUnusable]
  cases usable name <;> simp

theorem normalize?_eq_none_iff : normalize? name = none ↔ IsUnusable name := by
  rw [isUnusable_iff, normalize?_eq]
  split <;> simp [*]

theorem normalize?_eq_some_iff :
    normalize? name = some s ↔ joined name = s ∧ ¬ IsUnusable name := by
  rw [isUnusable_iff, normalize?_eq]
  split <;> simp [*]

end SkeletonName

namespace Skeleton

open SkeletonName (IsUnusable)

variable {kind : SkeletonKind} {name : String} {seconds : Int} {dir : String} {t : FileTree}

/-- There is a skeleton exactly if the name has a normal form, from which it is made. -/
theorem render_eq_ok_iff {s : Skeleton} :
    render kind name seconds = .ok s ↔
      ∃ n, SkeletonName.normalize? name.toList = some n ∧ s = ofName kind n seconds := by
  rw [render]
  cases SkeletonName.normalize? name.toList <;> simp [eq_comm]

theorem render_eq_error_iff {e : TaskError} :
    render kind name seconds = .error e ↔ e = .missingName kind ∧ IsUnusable name.toList := by
  rw [← SkeletonName.normalize?_eq_none_iff, render]
  cases SkeletonName.normalize? name.toList <;> simp [eq_comm]

/-- Once there is a skeleton, it does not fail for the lack of a name. -/
theorem write_ne_missingName (s : Skeleton) (dir : String) (t : FileTree) (k : SkeletonKind) :
    (s.write dir t).result ≠ .error (.missingName k) := by
  rcases s.write_cases dir t with ⟨p, -, h, -⟩ | ⟨e, rfl | rfl, h, -⟩ <;> simp [h]

theorem generate_eq_missingName_iff {k : SkeletonKind} :
    (generate kind name seconds dir t).result = .error (.missingName k) ↔
      k = kind ∧ IsUnusable name.toList := by
  have hrender : render kind name seconds = .error (.missingName k) ↔
      k = kind ∧ IsUnusable name.toList := by
    rw [render_eq_error_iff, TaskError.missingName.injEq]
  rw [← hrender, generate]
  cases render kind name seconds with
  | error e => simp
  | ok s => simp [write_ne_missingName]

end Skeleton

namespace Invocation

variable (i : Invocation) (app : Application) (w : World)

/-- Making a skeleton fails as generating it does.  Without a name it is made for the empty one. -/
theorem result_run_make_eq_error_iff {kind : SkeletonKind} {given dir : Option String}
    {e : TaskError} :
    ({ i with command := some (.make kind given dir) }.run app w).result = .error e ↔
      (Skeleton.generate kind (given.getD "") w.now (dir.getD (i.defaultDir kind))
        w.tree).result = .error e := by
  have hresult : ({ i with command := some (.make kind given dir) }.run app w).result =
      (Skeleton.generate kind (given.getD "") w.now (dir.getD (i.defaultDir kind))
        w.tree).result.map fun _ => () := rfl
  rw [hresult]
  cases (Skeleton.generate kind (given.getD "") w.now (dir.getD (i.defaultDir kind))
    w.tree).result <;> simp [Except.map]

end Invocation

namespace SkeletonName

/-- **Usable characters are kept.**  A name has no normal form exactly if none of its characters is
usable or the first usable one is a digit.  Any other name has one, which is its usable characters
with underscores between some of them.  Neither taking the name apart into words nor any stage after
it loses, doubles or moves a usable character.  So a skeleton lacks its name exactly if the name is
unusable, and so does the command that makes it. -/
theorem usable_characters_are_kept (name : String) :
    (normalize? name.toList = none ↔
      usable name.toList = [] ∨ ∃ c ∈ (usable name.toList).head?, c.isDigit = true) ∧
    (¬ IsUnusable name.toList →
      ∃ s, normalize? name.toList = some s ∧ s.filter (· ≠ '_') = usable name.toList) ∧
    (usable (words name.toList).flatten = usable name.toList ∧
      ∀ stage ∈ stages name.toList, stage.filter Char.isAlphanum = usable name.toList) ∧
    (∀ kind seconds e, Skeleton.render kind name seconds = .error e ↔
      e = .missingName kind ∧ IsUnusable name.toList) ∧
    ∀ (i : Invocation) app w kind k given dir, given.getD "" = name →
      (({ i with command := some (.make kind given dir) }.run app w).result =
        .error (.missingName k) ↔ k = kind ∧ IsUnusable name.toList) := by
  refine ⟨normalize?_eq_none_iff, fun h => ⟨joined name.toList, ?_, ?_⟩, ⟨?_, ?_⟩,
    fun kind seconds e => Skeleton.render_eq_error_iff, ?_⟩
  · exact normalize?_eq_some_iff.2 ⟨rfl, h⟩
  · exact filter_ne_underscore_joined name.toList
  · rw [flatten_words, usable_filter_isAlphanumeric]
  · exact fun stage => filter_of_mem_stages
  · rintro i app w kind k given dir rfl
    exact (i.result_run_make_eq_error_iff app w).trans Skeleton.generate_eq_missingName_iff

end SkeletonName

end Schemata
