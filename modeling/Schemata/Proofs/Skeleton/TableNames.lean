import Schemata.Proofs.Skeleton.Camel

/-!
# Names of tables

The table that a skeleton is about has the name of the skeleton less `create_`, `_table` or
`_seeder`, or less its underscores.  What is cut off ends or starts with an underscore, so joined
words are left of joined words, and never nothing.  They start with a letter as the name does, save
for one case: after `create_` a digit may come, and then the name of the table is no normal form.

* `SkeletonName.dropStart_cases`, `SkeletonName.dropFinish_cases` — cutting off;
* `SkeletonName.exists_append_dropStart`, `SkeletonName.exists_dropFinish_append` — the part that is
  cut off, and the rest;
* `SkeletonName.isJoined_dropStart`, `SkeletonName.isJoined_dropFinish` — what is left;
* `SkeletonName.migrationTable_eq`, `SkeletonName.seederTable_eq` — cutting off leaves something;
* `SkeletonName.cutting_leaves_table` — a normal form is what is cut off and its table;
* `SkeletonName.IsNumbered` — names that have a digit after `create_`;
* `Skeleton.isJoined_table`, `Skeleton.exists_digit_table_iff` — the words of a table;
* `Skeleton.table_is_normal_unless_numbered` — which tables have a normal form for a name.
-/

namespace Schemata

namespace SkeletonName

variable {cs start finish name : List Char}

/-! ### Cutting off -/

theorem dropStart_cases (start cs : List Char) :
    (∃ rest, cs = start ++ rest ∧ dropStart start cs = rest) ∨
    ¬ start <+: cs ∧ dropStart start cs = cs := by
  unfold dropStart
  split
  next h =>
    obtain ⟨rest, rfl⟩ := List.isPrefixOf_iff_prefix.1 h
    exact .inl ⟨rest, rfl, List.drop_left⟩
  next h => exact .inr ⟨fun hstart => h (List.isPrefixOf_iff_prefix.2 hstart), rfl⟩

theorem dropFinish_cases (finish cs : List Char) :
    (∃ front, cs = front ++ finish ∧ dropFinish finish cs = front) ∨
    ¬ finish <:+ cs ∧ dropFinish finish cs = cs := by
  unfold dropFinish
  split
  next h =>
    obtain ⟨front, rfl⟩ := List.isSuffixOf_iff_suffix.1 h
    exact .inl ⟨front, rfl, by simp⟩
  next h => exact .inr ⟨fun hfinish => h (List.isSuffixOf_iff_suffix.2 hfinish), rfl⟩

/-- The text is `start` and what is left if it starts with that, and all of it is left otherwise. -/
theorem exists_append_dropStart (start cs : List Char) :
    ∃ front, cs = front ++ dropStart start cs ∧ (front = [] ∨ front = start) ∧
      (start <+: cs → front = start) := by
  rcases dropStart_cases start cs with ⟨rest, heq, hrest⟩ | ⟨hother, hsame⟩
  · exact ⟨start, by rw [hrest, heq], .inr rfl, fun _ => rfl⟩
  · exact ⟨[], by rw [hsame, List.nil_append], .inl rfl, fun hstart => absurd hstart hother⟩

theorem exists_dropFinish_append (finish cs : List Char) :
    ∃ back, cs = dropFinish finish cs ++ back ∧ (back = [] ∨ back = finish) ∧
      (finish <:+ cs → back = finish) := by
  rcases dropFinish_cases finish cs with ⟨front, heq, hfront⟩ | ⟨hother, hsame⟩
  · exact ⟨finish, by rw [hfront, heq], .inr rfl, fun _ => rfl⟩
  · exact ⟨[], by rw [hsame, List.append_nil], .inl rfl, fun hfinish => absurd hfinish hother⟩

theorem IsJoined.not_pair_infix (h : IsJoined cs) : ¬ ['_', '_'] <:+: cs := by
  rw [← hasPair_iff, h.apart]
  exact Bool.false_ne_true

/-- No part of joined words has two underscores in a row. -/
theorem IsJoined.hasPair_of_infix (h : IsJoined cs) {part : List Char} (hpart : part <:+: cs) :
    hasPair part = false := by
  rw [← Bool.not_eq_true, hasPair_iff]
  exact fun hpair => h.not_pair_infix (hpair.trans hpart)

/-- Before an underscore there is the end of a word. -/
theorem IsJoined.of_append_underscore {rest : List Char} (h : IsJoined (cs ++ '_' :: rest)) :
    IsJoined cs where
  ne_nil := by
    rintro rfl
    exact h.head rfl
  mem c hc := h.mem c (List.mem_append_left _ hc)
  apart := h.hasPair_of_infix (List.prefix_append _ _).isInfix
  head := by
    intro hhead
    exact h.head (by rw [List.head?_append, hhead]; rfl)
  last := by
    intro hlast
    obtain ⟨front, rfl⟩ := List.getLast?_eq_some_iff.1 hlast
    exact h.not_pair_infix ⟨front, rest, by simp⟩

/-- After an underscore there is the start of a word. -/
theorem IsJoined.of_underscore_append {front : List Char} (h : IsJoined (front ++ '_' :: cs)) :
    IsJoined cs where
  ne_nil := by
    rintro rfl
    exact h.last (by simp)
  mem c hc := h.mem c (List.mem_append_right _ (List.mem_cons_of_mem _ hc))
  apart := h.hasPair_of_infix ⟨front ++ ['_'], [], by simp⟩
  head := by
    intro hhead
    obtain ⟨rest, rfl⟩ := List.head?_eq_some_iff.1 hhead
    exact h.not_pair_infix ⟨front, rest, by simp⟩
  last := by
    intro hlast
    have hne : cs ≠ [] := by
      rintro rfl
      cases hlast
    refine h.last ?_
    rw [List.getLast?_append_of_ne_nil _ (by simp), List.getLast?_cons]
    simp [hlast]

theorem isJoined_dropStart (h : IsJoined cs) (front : List Char) :
    IsJoined (dropStart (front ++ ['_']) cs) := by
  rcases dropStart_cases (front ++ ['_']) cs with ⟨rest, rfl, hrest⟩ | ⟨-, hsame⟩
  · rw [hrest]
    rw [List.append_assoc] at h
    exact h.of_underscore_append
  · rwa [hsame]

theorem isJoined_dropFinish (h : IsJoined cs) (rest : List Char) :
    IsJoined (dropFinish ('_' :: rest) cs) := by
  rcases dropFinish_cases ('_' :: rest) cs with ⟨front, rfl, hfront⟩ | ⟨-, hsame⟩
  · rw [hfront]
    exact h.of_append_underscore
  · rwa [hsame]

/-- Cutting off at the end leaves the first character. -/
theorem head?_dropFinish (h : IsJoined cs) (rest : List Char) :
    (dropFinish ('_' :: rest) cs).head? = cs.head? := by
  rcases dropFinish_cases ('_' :: rest) cs with ⟨front, rfl, hfront⟩ | ⟨-, hsame⟩
  · have hne : front ≠ [] := h.of_append_underscore.ne_nil
    rw [hfront, List.head?_append_of_ne_nil _ hne]
  · rw [hsame]

/-! ### Tables of migrations and seeders -/

theorem isJoined_dropBoth (h : IsJoined name) :
    IsJoined (dropFinish "_table".toList (dropStart "create_".toList name)) :=
  isJoined_dropFinish (isJoined_dropStart h "create".toList) "table".toList

theorem isJoined_dropSeeder (h : IsJoined name) : IsJoined (dropFinish "_seeder".toList name) :=
  isJoined_dropFinish h "seeder".toList

/-- Something is left of joined words, so the name itself is never taken instead. -/
theorem migrationTable_eq (h : IsJoined name) :
    migrationTable name = dropFinish "_table".toList (dropStart "create_".toList name) := by
  have hne := (isJoined_dropBoth h).ne_nil
  rw [migrationTable]
  split
  next hnil => exact absurd hnil hne
  next => rfl

-- what comes first and what comes last overlap, and only the first is cut off
example : migrationTable "create_table".toList = "table".toList := by decide

theorem seederTable_eq (h : IsJoined name) :
    seederTable name = dropFinish "_seeder".toList name := by
  have hne := (isJoined_dropSeeder h).ne_nil
  rw [seederTable]
  split
  next hnil => exact absurd hnil hne
  next => rfl

theorem isJoined_migrationTable (h : IsJoined name) : IsJoined (migrationTable name) := by
  rw [migrationTable_eq h]
  exact isJoined_dropBoth h

theorem isJoined_seederTable (h : IsJoined name) : IsJoined (seederTable name) := by
  rw [seederTable_eq h]
  exact isJoined_dropSeeder h

/-- **Cutting leaves a table.**  A normal form is the table of a migration with `create_` before it
or nothing, and with `_table` after it or nothing; `create_` is cut off whenever the name starts
with it, and `_table` whenever the rest ends with it.  In the same way it is the table of a seeder
alone or with `_seeder` after it.  Both tables are words with one underscore between each two.
Something is always left, so the name itself is never taken because nothing would be. -/
theorem cutting_leaves_table {s : List Char} (h : normalize? name = some s) :
    (∃ front back, s = front ++ migrationTable s ++ back ∧
      (front = [] ∨ front = "create_".toList) ∧ (back = [] ∨ back = "_table".toList) ∧
      ("create_".toList <+: s → front = "create_".toList) ∧
      ("_table".toList <:+ migrationTable s ++ back → back = "_table".toList)) ∧
    (s = seederTable s ∨ s = seederTable s ++ "_seeder".toList) ∧
    ("_seeder".toList <:+ s → s = seederTable s ++ "_seeder".toList) ∧
    IsJoined (migrationTable s) ∧ IsJoined (seederTable s) ∧
    dropFinish "_table".toList (dropStart "create_".toList s) ≠ [] ∧
    dropFinish "_seeder".toList s ≠ [] := by
  have hjoined : IsJoined s := (isNormal_of_normalize? h).isJoined
  obtain ⟨front, hs, hfront, hstart⟩ := exists_append_dropStart "create_".toList s
  obtain ⟨back, hrest, hback, hfinish⟩ :=
    exists_dropFinish_append "_table".toList (dropStart "create_".toList s)
  obtain ⟨last, hseeder, hlast, hends⟩ := exists_dropFinish_append "_seeder".toList s
  rw [← migrationTable_eq hjoined] at hrest
  rw [← seederTable_eq hjoined] at hseeder
  refine ⟨⟨front, back, ?_, hfront, hback, hstart, ?_⟩, ?_, ?_, isJoined_migrationTable hjoined,
    isJoined_seederTable hjoined, (isJoined_dropBoth hjoined).ne_nil,
    (isJoined_dropSeeder hjoined).ne_nil⟩
  · rw [List.append_assoc, ← hrest, ← hs]
  · rwa [← hrest]
  · rcases hlast with rfl | rfl
    · exact .inl (hseeder.trans (List.append_nil _))
    · exact .inr hseeder
  · intro hsuffix
    rwa [hends hsuffix] at hseeder

/-- Each table is cut out of the same name in its own way: `_table` in the middle is kept. -/
theorem cutting_leaves_middle :
    normalize? "--Create TableSeeder".toList = some "create_table_seeder".toList ∧
    (∃ front back, "create_table_seeder".toList = front ++ "table_seeder".toList ++ back ∧
      front = "create_".toList ∧ (back = [] ∨ back = "_table".toList)) ∧
    "create_table_seeder".toList = seederTable "create_table_seeder".toList ++ "_seeder".toList ∧
    IsJoined "table_seeder".toList ∧ IsJoined (seederTable "create_table_seeder".toList) ∧
    dropFinish "_table".toList (dropStart "create_".toList "create_table_seeder".toList) ≠ [] ∧
    dropFinish "_seeder".toList "create_table_seeder".toList ≠ [] := by
  have hname : normalize? "--Create TableSeeder".toList = some "create_table_seeder".toList := by
    decide +kernel
  have htable : migrationTable "create_table_seeder".toList = "table_seeder".toList := by decide
  obtain ⟨⟨front, back, hs, -, hback, hstart, -⟩, -, hends, hjoined, hleft⟩ :=
    cutting_leaves_table hname
  rw [htable] at hs hjoined
  exact ⟨hname, ⟨front, back, hs, hstart (by decide), hback⟩, hends (by decide), hjoined, hleft⟩

/-! ### Tables that start with a digit -/

/-- The name has a digit after `create_`. -/
def IsNumbered (name : List Char) : Prop :=
  ∃ d rest, d.isDigit = true ∧ name = "create_".toList ++ d :: rest

/-- The table of a migration starts with a digit only if that comes after `create_`. -/
theorem exists_digit_migrationTable_iff (h : IsNormal name) :
    (∃ d ∈ (migrationTable name).head?, d.isDigit = true) ↔ IsNumbered name := by
  obtain ⟨hjoined, hhead⟩ := isNormal_iff.1 h
  have htable : (migrationTable name).head? = (dropStart "create_".toList name).head? := by
    rw [migrationTable_eq hjoined]
    exact head?_dropFinish (isJoined_dropStart hjoined "create".toList) "table".toList
  rw [htable]
  rcases dropStart_cases "create_".toList name with ⟨rest, rfl, hrest⟩ | ⟨hother, hsame⟩
  · rw [hrest]
    constructor
    · rintro ⟨d, hd, hdigit⟩
      obtain ⟨rest', rfl⟩ := List.head?_eq_some_iff.1 hd
      exact ⟨d, rest', hdigit, rfl⟩
    · rintro ⟨d, rest', hdigit, heq⟩
      exact ⟨d, by rw [List.append_cancel_left heq]; rfl, hdigit⟩
  · rw [hsame]
    constructor
    · rintro ⟨d, hd, hdigit⟩
      rw [hhead d hd] at hdigit
      cases hdigit
    · rintro ⟨d, rest', -, rfl⟩
      exact absurd (List.prefix_append _ _) hother

/-- The words of a name without the underscores between them are one word. -/
theorem isJoined_filter (h : IsJoined name) : IsJoined (name.filter (· ≠ '_')) := by
  obtain ⟨c, w, ws, rfl, hw, -⟩ := h.exists_words
  have hc : c ≠ '_' := ne_underscore_of_isSmall (hw c List.mem_cons_self)
  have hsmall : ∀ d ∈ (c :: w ++ ws.flatMap ('_' :: ·)).filter (· ≠ '_'), isSmall d = true := by
    intro d hd
    rw [List.mem_filter] at hd
    exact (h.mem d hd.1).resolve_left (by simpa using hd.2)
  rw [List.cons_append, List.filter_cons_of_pos (by simpa using hc)] at hsmall ⊢
  have hnone : AreWords [] := by simp [AreWords]
  simpa using isJoined_of_words hsmall hnone

theorem head?_filter (h : IsJoined name) : (name.filter (· ≠ '_')).head? = name.head? := by
  have hhead := h.head
  cases name with
  | nil => rfl
  | cons c name =>
    have hc : c ≠ '_' := by simpa using hhead
    rw [List.filter_cons_of_pos (by simpa using hc)]
    rfl

end SkeletonName

namespace Skeleton

open SkeletonName

variable {kind : SkeletonKind} {name : List Char}

/-- The table is made of words. -/
theorem isJoined_table (kind : SkeletonKind) (h : IsJoined name) :
    IsJoined (tableOf kind name).toList := by
  cases kind with
  | migration =>
    rw [tableOf, String.toList_ofList]
    exact isJoined_migrationTable h
  | model =>
    rw [tableOf, String.toList_ofList, flatMap_lowercase_camel h]
    exact isJoined_filter h
  | seeder =>
    rw [tableOf, String.toList_ofList]
    exact isJoined_seederTable h

/-- Of all tables, those of migrations with a number after `create_` start with a digit. -/
theorem exists_digit_table_iff (kind : SkeletonKind) (h : IsNormal name) :
    (∃ d ∈ (tableOf kind name).toList.head?, d.isDigit = true) ↔
      kind = .migration ∧ IsNumbered name := by
  obtain ⟨hjoined, hhead⟩ := isNormal_iff.1 h
  have hletter : ¬ ∃ d ∈ name.head?, d.isDigit = true := by
    rintro ⟨d, hd, hdigit⟩
    rw [hhead d hd] at hdigit
    cases hdigit
  cases kind with
  | migration =>
    rw [tableOf, String.toList_ofList, exists_digit_migrationTable_iff h]
    exact (and_iff_right rfl).symm
  | model =>
    rw [tableOf, String.toList_ofList, flatMap_lowercase_camel hjoined, head?_filter hjoined]
    exact iff_of_false hletter (by simp)
  | seeder =>
    have htable : (seederTable name).head? = name.head? := by
      rw [seederTable_eq hjoined]
      exact head?_dropFinish hjoined "seeder".toList
    rw [tableOf, String.toList_ofList, htable]
    exact iff_of_false hletter (by simp)

/-- **Tables have normal names unless they are numbered.**  The table of a skeleton is made of words
of small letters and digits, with one underscore between each two.  It is the normal form of a name,
and so its own, unless the skeleton is a migration with a digit after `create_`; that table has no
normal form at all. -/
theorem table_is_normal_unless_numbered {name : String} {seconds : Int} {s : Skeleton}
    (h : render kind name seconds = .ok s) :
    ∃ n, normalize? name.toList = some n ∧ IsJoined s.table.toList ∧
      (¬ (kind = .migration ∧ IsNumbered n) →
        normalize? s.table.toList = some s.table.toList ∧ IsNormal s.table.toList) ∧
      (kind = .migration ∧ IsNumbered n → normalize? s.table.toList = none) := by
  obtain ⟨n, hn, rfl⟩ := render_eq_ok_iff.1 h
  have hnormal : IsNormal n := isNormal_of_normalize? hn
  have htable : IsJoined (tableOf kind n).toList := isJoined_table kind hnormal.isJoined
  have hdigit := exists_digit_table_iff kind hnormal
  refine ⟨n, hn, htable, fun hplain => ?_, fun hnumbered => ?_⟩
  · have htable' : IsNormal (tableOf kind n).toList := by
      refine isNormal_iff.2 ⟨htable, fun c hc => Bool.eq_false_iff.2 fun hd => ?_⟩
      exact hplain (hdigit.1 ⟨c, hc, hd⟩)
    exact ⟨normalize?_of_isNormal htable', htable'⟩
  · rw [normalize?_eq_none_iff]
    exact (isUnusable_of_isJoined htable).2 (hdigit.2 hnumbered)

/-- A digit elsewhere than after `create_` is left inside the name of the table. -/
theorem versioned_table_is_normal :
    render .migration "CreateV2 USERS--table" 0 =
      .ok (ofName .migration "create_v2_users_table".toList 0) ∧
    tableOf .migration "create_v2_users_table".toList = "v2_users" ∧
    normalize? "v2_users".toList = some "v2_users".toList ∧ IsNormal "v2_users".toList := by
  have hname : normalize? "CreateV2 USERS--table".toList = some "create_v2_users_table".toList := by
    decide +kernel
  have htable : tableOf .migration "create_v2_users_table".toList = "v2_users" := by
    decide +kernel
  have hrender : render .migration "CreateV2 USERS--table" 0 =
      .ok (ofName .migration "create_v2_users_table".toList 0) :=
    render_eq_ok_iff.2 ⟨_, hname, rfl⟩
  obtain ⟨n, hn, -, hplain, -⟩ := table_is_normal_unless_numbered hrender
  obtain rfl := Option.some.inj (hname.symm.trans hn)
  refine ⟨hrender, htable, ?_⟩
  rw [← htable]
  refine hplain ?_
  rintro ⟨-, d, rest, hdigit, heq⟩
  obtain ⟨rfl, -⟩ : 'v' = d ∧ _ := by simpa using heq
  cases hdigit

/-- A table with a digit after `create_` is no normal form, and no identifier in strict mode. -/
theorem numbered_table_is_refused :
    render .migration "create_2fa_table" 1700000000 =
      .ok (ofName .migration "create_2fa_table".toList 1700000000) ∧
    (ofName .migration "create_2fa_table".toList 1700000000).table = "2fa" ∧
    normalize? "2fa".toList = none ∧
    Identifier.validate "2fa" = .error (.invalidIdentifier "2fa" .head) :=
  ⟨render_eq_ok_iff.2 ⟨_, by decide +kernel, rfl⟩, by decide +kernel, by decide +kernel, rfl⟩

end Skeleton

end Schemata
