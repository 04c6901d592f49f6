import Schemata.Proofs.Console.Spelling

/-!
# Command lines for invocations

Every invocation that names its directories has a command line that is read back as the invocation
itself.  The options before the command may come in any order and spelling, and only the driver
depends on the environment, if there is no option for it.

* `Command.words` — the words for a command;
* `Invocation.globals` — the options before the command, and `Invocation.canonical`, the whole line;
* `Command.read_arguments` — what follows a command is read back;
* `Invocation.read_spelled` — options in any spelling and order, some of them or all;
* `Invocation.read_back` — all invocations.
-/

namespace Schemata

open Reading

/-! ### Commands -/

namespace Command

/-- The word for the command. -/
def verb : Command → Verb
  | .migrate _ => .migrate
  | .rollback => .rollback
  | .refresh _ => .refresh
  | .seed => .seed
  | .status _ => .status
  | .make _ _ _ => .make

/-- The words after the command.  A name comes last, where a hyphen in it is no option. -/
def arguments : Command → List String
  | .migrate wanted | .refresh wanted => if wanted then ["--seed"] else []
  | .rollback | .seed => []
  | .status json => if json then ["--json"] else []
  | .make kind name dir =>
    kind.label :: ((dir.map ("--dir=" ++ ·)).toList ++
      match name with
      | some name => ["--", name]
      | none => [])

/-- The words for the command. -/
def words (c : Command) : List String :=
  c.verb.word :: c.arguments

/-- No directory of the command is empty. -/
def NamesDir : Command → Prop
  | .make _ _ dir => dir ≠ some ""
  | _ => True

end Command

namespace Reading.Settles

variable {r : Reading} {given : List (Argument × String)} {words : List Argument}

/-- What is given does not depend on the words that may still come. -/
theorem setWords (h : r.Settles given words) (words' : List Argument) :
    r.words = words ∧ Settles { r with words := words' } given words' := by
  obtain ⟨given₀, opened, words₀⟩ := r
  rcases opened with _ | ⟨a, _ | v⟩
  · cases h
    exact ⟨rfl, rfl⟩
  · cases h
  · simp only [Settles, settle, giveValue, has, value?] at h ⊢
    split at h
    next => cases h
    next hnew =>
      split at h
      next hv =>
        cases h
        simp [hnew, hv]
      next => cases h

end Reading.Settles

/-! ### What follows a command -/

namespace Form

variable {r : Reading} {given : List (Argument × String)}

/-- The word for a kind is read as one. -/
theorem readFrom_kind (kind : SkeletonKind) (rest : List String) :
    (ofVerb .make).readFrom { words := [.kind, .name] } false (kind.label :: rest) =
      (ofVerb .make).readFrom
        { words := [.name], opened := some (.kind, some kind.label) } false rest := by
  cases kind <;> rfl

/-- A directory is read as one. -/
theorem readFrom_dir {words : List Argument} (h : r.Settles given words)
    (hnew : .dir ∉ given.map Prod.fst) {dir : Option String} (hdir : dir ≠ some "")
    (rest : List String) :
    ∃ r' : Reading, r'.Settles (given ++ (dir.map (Argument.dir, ·)).toList) words ∧
      (ofVerb .make).readFrom r false ((dir.map ("--dir=" ++ ·)).toList ++ rest) =
        (ofVerb .make).readFrom r' false rest := by
  cases dir with
  | none => exact ⟨r, by simpa using h, rfl⟩
  | some dir =>
    have hv : Argument.dir.accepts dir = true := by simpa [Argument.accepts] using hdir
    have hs : Argument.Spelled .dir dir ["--" ++ "dir" ++ "=" ++ dir] := .longEquals rfl rfl dir
    exact readFrom_spelled (isClear_ofVerb .make) h (by decide) hnew hv hs rest

/-- What follows two hyphens is the name, whatever it looks like. -/
theorem readFrom_name (h : r.Settles given [.name]) (hnew : .name ∉ given.map Prod.fst)
    (name : Option String) :
    ∃ (r' : Reading) (words : List Argument),
      r'.Settles (given ++ (name.map (Argument.name, ·)).toList) words ∧
      (ofVerb .make).readFrom r false (match name with
        | some name => ["--", name]
        | none => []) = .ok (r', none) := by
  cases name with
  | none => exact ⟨r, [.name], by simpa using h, rfl⟩
  | some name =>
    obtain ⟨hwords, hsettles⟩ := h.setWords []
    -- the kind or the directory may be open, and settles when the name opens
    refine ⟨_, [], .opened hnew (v := name) rfl [], ?_⟩
    have hseparator : ("--" : String).toList = ['-', '-'] := rfl
    simp [readFrom, verb?, ofVerb, hseparator, Shape.of, readWord, hwords, hsettles.leaveOpen,
      Except.bind]

end Form

namespace Form

/-- What follows the command that generates is read as its kind, directory and name. -/
theorem readAll_make (kind : SkeletonKind) (name : Option String) {dir : Option String}
    (hdir : dir ≠ some "") :
    ∃ words, (ofVerb .make).readAll (Command.make kind name dir).arguments =
      .ok {
        given := (Argument.kind, kind.label) :: (dir.map (Argument.dir, ·)).toList ++
          (name.map (Argument.name, ·)).toList
        words } := by
  have hkind : Argument.kind.accepts kind.label = true := by cases kind <;> rfl
  have hnew : Argument.kind ∉ ([] : List (Argument × String)).map Prod.fst := by simp
  have hsettles : Settles { words := [.name], opened := some (.kind, some kind.label) }
      [(.kind, kind.label)] [.name] := .opened hnew hkind [.name]
  obtain ⟨r₁, hr₁, hread₁⟩ := readFrom_dir hsettles (by simp) hdir _
  obtain ⟨r₂, words, hr₂, hread₂⟩ := readFrom_name hr₁ (by cases dir <;> simp) name
  refine ⟨words, ?_⟩
  have hread : (ofVerb .make).read (Command.make kind name dir).arguments = .ok (r₂, none) := by
    rw [← hread₂, ← hread₁]
    exact readFrom_kind kind _
  rw [readAll, hread]
  exact hr₂

end Form

namespace Command

theorem ofReading_make {r : Reading} {kind : SkeletonKind}
    (h : r.value? .kind = some kind.label) :
    Command.ofReading .make r = .ok (.make kind (r.value? .name) (r.value? .dir)) := by
  simp [Command.ofReading, h, SkeletonKind.ofLabel?_label]

/-- What follows a command is read back. -/
theorem read_arguments (c : Command) (h : c.NamesDir) :
    Command.read c.verb c.arguments = .ok c := by
  cases c with
  | migrate wanted => cases wanted <;> rfl
  | rollback => rfl
  | refresh wanted => cases wanted <;> rfl
  | seed => rfl
  | status json => cases json <;> rfl
  | make kind name dir =>
    obtain ⟨words, hread⟩ := Form.readAll_make kind name h
    simp only [Command.verb, Command.read, hread, Except.bind]
    rw [ofReading_make rfl]
    cases dir <;> cases name <;> rfl

end Command

/-! ### Whole command lines -/

namespace Invocation

/-- The options of the invocation, with their values. -/
def globals (i : Invocation) : List (Argument × String) :=
  [(.driver, i.driver), (.migrationsDir, i.migrationsDir)] ++
    ((if i.strict then [(.strict, "")] else []) ++ if i.verbose then [(.verbose, "")] else [])

/-- The words for the command, if there is one. -/
def commandWords (i : Invocation) : List String :=
  (i.command.map Command.words).getD []

/-- The usual words for the options. -/
def globalWords (i : Invocation) : List String :=
  ["--driver=" ++ i.driver, "--migrations-dir=" ++ i.migrationsDir] ++
    ((if i.strict then ["--strict"] else []) ++ if i.verbose then ["--verbose"] else [])

/-- The usual command line of the invocation. -/
def canonical (i : Invocation) : List String :=
  i.globalWords ++ i.commandWords

variable {i : Invocation} {given : List (Argument × String)} {line : List String}

/-- Different options in any spelling and order are read, and so is the command after them. -/
theorem read_spelled (configured : Option String)
    (hs : Argument.AllSpelled given line)
    (hgiven : ∀ g ∈ given, g.1 ∈ Form.top.options ∧ g.1.accepts g.2 = true)
    (hnodup : (given.map Prod.fst).Nodup) {command : Option Command}
    (hcommand : ∀ c ∈ command, c.NamesDir) :
    Invocation.read configured (line ++ (command.map Command.words).getD []) =
      .ok (.ofReading configured { given } command) := by
  obtain ⟨r, hr, hread⟩ := Form.readFrom_all_spelled Form.isClear_top (.nothing [] []) hs hgiven
    hnodup ((command.map Command.words).getD [])
  rw [List.nil_append] at hr
  -- the last option may be open until the command is read, so it is settled in the end
  cases command with
  | none =>
    have hline : Form.top.read (line ++ []) = .ok (r, none) := hread
    simp only [Option.map_none, Option.getD_none, Invocation.read, hline, Except.bind]
    rw [hr]
    rfl
  | some c =>
    have hverb : Form.top.readFrom r false c.words = .ok (r, some (c.verb, c.arguments)) := by
      have hword : Form.top.verb? c.verb.word = some c.verb := Verb.ofWord?_word c.verb
      simp [Command.words, Form.readFrom, hr.awaitsValue, hword]
    have hline : Form.top.read (line ++ c.words) =
        .ok (r, some (c.verb, c.arguments)) := hread.trans hverb
    simp only [Option.map_some, Option.getD_some, Invocation.read, hline, Except.bind,
      c.read_arguments (hcommand c rfl)]
    rw [hr]
    rfl

/-- What is given in another order makes the same invocation. -/
theorem ofReading_eq_of_perm (configured : Option String) {given' : List (Argument × String)}
    (hnodup : (given.map Prod.fst).Nodup) (h : given.Perm given') (command : Option Command) :
    Invocation.ofReading configured { given } command =
      .ofReading configured { given := given' } command := by
  simp [Invocation.ofReading, value?, has, Lookup.eq_of_perm hnodup h]

theorem nodup_globals (i : Invocation) : (i.globals.map Prod.fst).Nodup := by
  cases hs : i.strict <;> cases hv : i.verbose <;> simp [globals, hs, hv]

theorem allSpelled_globalWords (i : Invocation) :
    Argument.AllSpelled i.globals i.globalWords := by
  have hdriver : Argument.Spelled .driver i.driver ["--" ++ "driver" ++ "=" ++ i.driver] :=
    .longEquals rfl rfl i.driver
  have hdir : Argument.Spelled .migrationsDir i.migrationsDir
      ["--" ++ "migrations-dir" ++ "=" ++ i.migrationsDir] :=
    .longEquals rfl rfl i.migrationsDir
  have hstrict : Argument.Spelled .strict "" ["--" ++ "strict"] := .longSwitch rfl rfl
  have hverbose : Argument.Spelled .verbose "" ["--" ++ "verbose"] := .longSwitch rfl rfl
  have hvalues := (Argument.AllSpelled.singleton hdriver).append (.singleton hdir)
  exact hvalues.append ((Argument.AllSpelled.switch hstrict i.strict).append
    (.switch hverbose i.verbose))

theorem ofReading_globals (configured : Option String) (i : Invocation) :
    Invocation.ofReading configured { given := i.globals } i.command = i := by
  obtain ⟨driver, dir, strict, verbose, command⟩ := i
  cases strict <;> cases verbose <;> rfl

/-- The options of an invocation are known, and accept their values. -/
theorem accepts_globals (hdir : i.migrationsDir ≠ "") :
    ∀ g ∈ i.globals, g.1 ∈ Form.top.options ∧ g.1.accepts g.2 = true := by
  cases hs : i.strict <;> cases hv : i.verbose <;>
    simp [globals, hs, hv, Form.top, Argument.accepts, hdir]

/-- **Every invocation has a command line.**  An invocation without empty directories is read back
from its usual command line, whatever the environment configures, and from every other one that has
its options in any order and spelling.  Without an option for it, the driver is the one that the
environment configures, even if that is empty, or else the default one. -/
theorem read_back (i : Invocation) (hdir : i.migrationsDir ≠ "")
    (hcommand : ∀ c ∈ i.command, c.NamesDir) (configured : Option String) :
    Invocation.read configured i.canonical = .ok i ∧
    (∀ (given : List (Argument × String)) (line : List String), given.Perm i.globals →
      Argument.AllSpelled given line →
      Invocation.read configured (line ++ i.commandWords) = .ok i) ∧
    (∀ (given : List (Argument × String)) (line : List String), (given.map Prod.fst).Nodup →
      (∀ g ∈ given, g.1 ∈ Form.top.options ∧ g.1 ≠ .driver ∧ g.1.accepts g.2 = true) →
      Argument.AllSpelled given line →
      Invocation.read configured (line ++ i.commandWords) = .ok {
        driver := configured.getD "mysql"
        migrationsDir := (given.lookup .migrationsDir).getD "database/schema"
        strict := (given.lookup .strict).isSome
        verbose := (given.lookup .verbose).isSome
        command := i.command }) := by
  have hany (given : List (Argument × String)) (line : List String)
      (hperm : given.Perm i.globals) (hs : Argument.AllSpelled given line) :
      Invocation.read configured (line ++ i.commandWords) = .ok i := by
    have hnodup : (given.map Prod.fst).Nodup :=
      (hperm.map Prod.fst).nodup_iff.2 i.nodup_globals
    have hgiven : ∀ g ∈ given, g.1 ∈ Form.top.options ∧ g.1.accepts g.2 = true :=
      fun g hg => accepts_globals hdir g (hperm.mem_iff.1 hg)
    have hread := read_spelled configured hs hgiven hnodup hcommand
    rwa [ofReading_eq_of_perm configured hnodup hperm, ofReading_globals] at hread
  refine ⟨hany _ _ (.refl _) i.allSpelled_globalWords, hany, fun given line hnodup hgiven hs => ?_⟩
  have hnone : given.lookup .driver = none := by
    refine Lookup.eq_none_of_not_mem fun hmem => ?_
    obtain ⟨g, hg, hdriver⟩ := List.mem_map.1 hmem
    exact (hgiven g hg).2.1 hdriver
  have hread := read_spelled configured hs (fun g hg => ⟨(hgiven g hg).1, (hgiven g hg).2.2⟩)
    hnodup hcommand
  simpa [commandWords, Invocation.ofReading, value?, has, hnone, defaultDriver,
    defaultMigrationsDir] using hread

/-- An invocation whose values look like commands and options. -/
def disguised : Invocation where
  driver := "migrate"
  migrationsDir := "make"
  strict := true
  verbose := false
  command := some (.make .model (some "--seed") (some "=out"))

/-- The values are no commands and no options, be they next to their names or after them. -/
theorem disguised_read_back :
    Invocation.read (some "pgsql") ["--driver=migrate", "--migrations-dir=make", "--strict",
      "make", "model", "--dir==out", "--", "--seed"] = .ok disguised ∧
    Invocation.read none ["-m", "make", "--strict", "-dmigrate",
      "make", "model", "--dir==out", "--", "--seed"] = .ok disguised ∧
    Invocation.read (some "") ["--strict", "make", "model", "--dir==out", "--", "--seed"] =
      .ok { disguised with driver := "", migrationsDir := "database/schema" } := by
  have hdir : disguised.migrationsDir ≠ "" := by decide
  have hcommand : ∀ c ∈ disguised.command, c.NamesDir := by
    rintro c ⟨⟩
    show some "=out" ≠ some ""
    decide
  have hm : Argument.Spelled .migrationsDir "make" ["-" ++ 'm'.toString, "make"] :=
    .shortNext rfl rfl ⟨'m', ['a', 'k', 'e'], by decide⟩
  have hd : Argument.Spelled .driver "migrate" ["-" ++ 'd'.toString ++ "migrate"] :=
    .shortJoined rfl rfl ⟨'m', "igrate".toList, by decide⟩
  have hs : Argument.Spelled .strict "" ["--" ++ "strict"] := .longSwitch rfl rfl
  refine ⟨(read_back disguised hdir hcommand (some "pgsql")).1,
    (read_back disguised hdir hcommand none).2.1 _ _ ?_
      (((Argument.AllSpelled.singleton hm).append (.singleton hs)).append (.singleton hd)),
    (read_back disguised hdir hcommand (some "")).2.2 _ _ ?_ ?_ (.singleton hs)⟩
  · decide
  · decide
  · decide

end Invocation

end Schemata
