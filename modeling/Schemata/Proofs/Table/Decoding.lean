import Schemata.Proofs.Fragment.Reading
import Schemata.Proofs.Table.Refusal

/-!
# Decoding statements

The statement that creates a table tells the table.  Its fragments are read one after another, each
up to the comma or the parenthesis after it, so neither a comma nor a parenthesis nor a keyword
inside a string can be taken for one of the statement.

* `Table.decode?` — the name and the fragments that a statement tells;
* `Table.decode?_of_create` — decoding the statement of a legible table gives these back;
* `Fragment.Alike` — fragments that differ at most in the points in time that they stand for;
* `Table.create_tells_table` — legible tables of one dialect have one statement only if they have
  one name and alike fragments.
-/

namespace Schemata

namespace Reader

/-- Reads fragments with commas between them. -/
def fragments (s : List Char) : Option (List Fragment × List Char) :=
  match fragment.run s with
  | none => some ([], s)
  | some (f, after) =>
    match ", ".toList.isPrefixOf? after with
    | none => some ([f], after)
    | some next =>
      -- always so, as a reader takes characters off
      if next.length < s.length then
        (fragments next).map fun (fs, rest) => (f :: fs, rest)
      else none
termination_by s.length

/-- Reads the statement that creates a table. -/
def table : Reader (String × List Fragment) := do
  literal "CREATE TABLE IF NOT EXISTS "
  let name ← word
  literal " ("
  let fs ← (fragments : Reader (List Fragment))
  literal ");"
  return (name, fs)

variable {d : Dialect} {f : Fragment} {fs : List Fragment} {s next rest : List Char}

theorem fragments_of_none (h : fragment.run s = none) : fragments s = some ([], s) := by
  rw [fragments, h]

theorem fragments_of_last (h : fragment.run s = some (f, ')' :: rest)) :
    fragments s = some ([f], ')' :: rest) := by
  rw [fragments, h]
  rfl

theorem fragments_of_next (h : fragment.run s = some (f, ", ".toList ++ next))
    (hlt : next.length < s.length) (hnext : fragments next = some (fs, rest)) :
    fragments s = some (f :: fs, rest) := by
  rw [fragments, h]
  simp only [isPrefixOf?_append, if_pos hlt, hnext, Option.map_some]

/-- The fragments of a statement are read up to its closing parenthesis. -/
theorem reads_fragments {texts : List String} (hfs : ∀ f ∈ fs, f.IsLegible)
    (hr : List.Forall₂ (fun f text => f.render d = .ok text) fs texts) (rest : List Char) :
    Reads fragments (String.intercalate ", " texts).toList (fs.map Fragment.shown)
      (')' :: rest) := by
  induction hr with
  | nil =>
    -- no fragment starts with a parenthesis
    exact fragments_of_none rfl
  | @cons f text fs texts hf hr ih =>
    have hlegible := hfs f (by simp)
    have hrest := ih fun g hg => hfs g (List.mem_cons_of_mem _ hg)
    cases hr with
    | nil =>
      rw [String.intercalate_singleton]
      exact fragments_of_last (Fragment.reads_render hlegible hf (.parenthesis rest))
    | @cons g u fs texts hg hr =>
      have htext : (String.intercalate ", " (text :: u :: texts)).toList ++ ')' :: rest =
          text.toList ++ (", ".toList ++
            ((String.intercalate ", " (u :: texts)).toList ++ ')' :: rest)) := by
        rw [String.intercalate_cons_cons]
        simp only [String.toList_append, List.append_assoc]
      unfold Reads
      rw [htext]
      refine fragments_of_next (Fragment.reads_render hlegible hf (.comma _)) ?_ hrest
      have hcomma : 0 < ", ".toList.length := by decide
      simp only [List.length_append]
      omega

theorem reads_table {name : String} {texts : List String}
    (hname : Identifier.validate name = .ok ()) (hfs : ∀ f ∈ fs, f.IsLegible)
    (hr : List.Forall₂ (fun f text => f.render d = .ok text) fs texts) :
    Reads table (Table.createSql name texts).toList (name, fs.map Fragment.shown) [] := by
  have htext : (Table.createSql name texts).toList =
      "CREATE TABLE IF NOT EXISTS ".toList ++ (name.toList ++ (" (".toList ++
        ((String.intercalate ", " texts).toList ++ ");".toList))) := by
    unfold Table.createSql
    repeat rw [String.toList_append]
    repeat rw [List.append_assoc]
  have hbody := reads_fragments hfs hr [';']
  have hend := reads_literal ");" []
  rw [htext]
  refine (reads_literal "CREATE TABLE IF NOT EXISTS " _).bind ?_
  refine (reads_identifier hname (stops_cons.2 (by decide))).bind ?_
  exact (reads_literal " (" _).bind (hbody.bind (hend.last rfl))

end Reader

/-! ### Legible tables -/

namespace Fragment

/-- Whether the fragments are both columns or both foreign keys and agree in everything, except
that two columns may be different points in time. -/
inductive Alike : Fragment → Fragment → Prop
  /-- Columns agree up to the points in time. -/
  | column {c c' : Column} (name : c.name = c'.name) (kind : c.kind.Alike c'.kind)
    (nullable : c.nullable = c'.nullable) (default : c.default = c'.default)
    (unique : c.unique = c'.unique) : Alike (.column c) (.column c')
  /-- Foreign keys agree. -/
  | foreignKey (k : ForeignKey) : Alike (.foreignKey k) (.foreignKey k)

variable {d : Dialect} {f g : Fragment} {fs gs : List Fragment}

theorem shown_eq_shown_iff : f.shown = g.shown ↔ f.Alike g := by
  constructor
  · intro h
    cases f with
    | column c =>
      cases g with
      | column c' =>
        simp only [shown, Fragment.column.injEq, Column.mk.injEq] at h
        obtain ⟨hname, hkind, hnullable, hdefault, hunique⟩ := h
        exact .column hname (ColumnKind.shown_eq_shown_iff.1 hkind) hnullable hdefault hunique
      | foreignKey k => cases h
    | foreignKey k =>
      cases g with
      | column c => cases h
      | foreignKey k' =>
        cases h
        exact .foreignKey k
  · rintro (⟨hname, hkind, hnullable, hdefault, hunique⟩ | k)
    · simp [shown, hname, ColumnKind.shown_eq_shown_iff.2 hkind, hnullable, hdefault, hunique]
    · rfl

theorem map_shown_eq_iff : fs.map shown = gs.map shown ↔ List.Forall₂ Alike fs gs := by
  induction fs generalizing gs with
  | nil => cases gs <;> simp
  | cons f fs ih => cases gs <;> simp [shown_eq_shown_iff, ih]

theorem Alike.render_eq (d : Dialect) (h : f.Alike g) : f.render d = g.render d := by
  cases h with
  | @column c c' name kind nullable default unique =>
    have htype : d.typeName c.kind = d.typeName c'.kind :=
      ColumnKind.typeName_eq_typeName_iff.2 kind
    simp [render, Column.render, Column.nullClause, Column.keyClause, Column.defaultClause,
      Column.uniqueClause, name, htype, kind.isPrimaryKey_eq, nullable, default, unique]
  | foreignKey k => rfl

theorem renderAll_eq_of_alike (d : Dialect) (h : List.Forall₂ Alike fs gs) :
    renderAll d fs = renderAll d gs := by
  induction h with
  | nil => rfl
  | cons hfg _ ih => rw [renderAll, renderAll, hfg.render_eq d, ih]

theorem IsLegible.isComplete (h : f.IsLegible) : f.IsComplete := by
  cases f with
  | column c => trivial
  | foreignKey k =>
    obtain ⟨-, ⟨column, hr, -⟩, table, ht, -⟩ := h
    exact ForeignKey.stage_eq_complete_iff.2 ⟨column, table, hr, ht⟩

end Fragment

namespace Table

/-- Whether the table has a valid name and legible fragments. -/
structure IsLegible (t : Table) : Prop where
  /-- The name is set and valid. -/
  name : ∃ name, t.name = some name ∧ Identifier.validate name = .ok ()
  /-- Every fragment is legible. -/
  fragments : ∀ f ∈ t.fragments, f.IsLegible

/-- The name and the fragments that a statement tells. -/
def decode? (sql : String) : Option (String × List Fragment) :=
  match Reader.table.run sql.toList with
  | some (told, []) => some told
  | _ => none

variable {t t' : Table} {sql : String}

/-- Decoding the statement of a legible table gives its name and its fragments. -/
theorem decode?_of_create (ht : t.IsLegible) (h : t.create.reply = .ok (some sql)) :
    decode? sql = t.name.map fun name => (name, t.fragments.map Fragment.shown) := by
  obtain ⟨name, texts, hn, hr, hsql⟩ := create_reply_eq_ok_iff.1 h
  obtain ⟨name', hn', hname⟩ := ht.name
  obtain rfl : name = name' := Option.some.inj (hn.symm.trans hn')
  obtain rfl : sql = createSql name texts := Option.some.inj hsql
  have hread := Reader.reads_table hname ht.fragments (Fragment.renderAll_eq_ok_iff.1 hr)
  unfold Reader.Reads at hread
  rw [List.append_nil] at hread
  rw [decode?, hread, hn]
  rfl

/-- A legible table has a statement. -/
theorem IsLegible.exists_create (ht : t.IsLegible) : ∃ sql, t.create.reply = .ok (some sql) := by
  obtain ⟨name, hn, -⟩ := ht.name
  obtain ⟨texts, hr⟩ := Fragment.exists_renderAll_eq_ok t.dialect fun f hf =>
    (ht.fragments f hf).isComplete
  exact ⟨createSql name texts, create_reply_eq_ok_iff.2 ⟨name, texts, hn, hr, rfl⟩⟩

/-- **Statements tell tables.** Two legible tables of one dialect have statements, and these are
equal exactly if the tables have one name and their fragments agree one by one, up to the kinds of
points in time. -/
theorem create_tells_table (ht : t.IsLegible) (ht' : t'.IsLegible) (hd : t.dialect = t'.dialect) :
    ∃ sql sql', (t.perform .create).reply = .ok (some sql) ∧
      (t'.perform .create).reply = .ok (some sql') ∧
      (sql = sql' ↔ t.name = t'.name ∧ List.Forall₂ Fragment.Alike t.fragments t'.fragments) := by
  obtain ⟨sql, hsql⟩ := ht.exists_create
  obtain ⟨sql', hsql'⟩ := ht'.exists_create
  obtain ⟨name, hn, -⟩ := ht.name
  obtain ⟨name', hn', -⟩ := ht'.name
  refine ⟨sql, sql', hsql, hsql', ?_, ?_⟩
  · rintro rfl
    have htold := (decode?_of_create ht hsql).symm.trans (decode?_of_create ht' hsql')
    simp only [hn, hn', Option.map_some, Option.some.injEq, Prod.mk.injEq] at htold ⊢
    exact ⟨htold.1, Fragment.map_shown_eq_iff.1 htold.2⟩
  · rintro ⟨hname, hfragments⟩
    have hsame : t.create.reply = t'.create.reply := by
      have hall := Fragment.renderAll_eq_of_alike t'.dialect hfragments
      unfold create
      rw [hname, hd, hall, hn']
      cases Fragment.renderAll t'.dialect t'.fragments <;> rfl
    rw [hsql, hsql'] at hsame
    simpa using hsame

/-- A column whose default looks like the end of a column and the start of another one. -/
def disguised : Table where
  dialect := .postgres
  name := some "notes"
  fragments := [.column {
    name := "a", kind := .text, default := some (.string "x' UNIQUE, b TEXT NOT NULL DEFAULT 'y") }]

/-- The two columns that the default of `disguised` looks like. -/
def undisguised : Table where
  dialect := .postgres
  name := some "notes"
  fragments := [
    .column { name := "a", kind := .text, default := some (.string "x"), unique := true },
    .column { name := "b", kind := .text, default := some (.string "y") }]

/-- The two tables have different statements. -/
theorem create_disguised_ne :
    (disguised.perform .create).reply ≠ (undisguised.perform .create).reply := by
  have hdisguised : disguised.IsLegible := by
    refine ⟨⟨"notes", rfl, rfl⟩, fun f hf => ?_⟩
    obtain rfl := List.mem_singleton.1 hf
    exact ⟨rfl, by simp [ColumnDefault.IsLegible]⟩
  have hundisguised : undisguised.IsLegible := by
    refine ⟨⟨"notes", rfl, rfl⟩, fun f hf => ?_⟩
    rcases List.mem_pair.1 hf with rfl | rfl
    · exact ⟨rfl, by simp [ColumnDefault.IsLegible]⟩
    · exact ⟨rfl, by simp [ColumnDefault.IsLegible]⟩
  obtain ⟨sql, sql', h, h', hiff⟩ := create_tells_table hdisguised hundisguised rfl
  rw [h, h']
  intro heq
  have hlength := (hiff.1 (by simpa using heq)).2.length_eq
  cases hlength

end Table

end Schemata
