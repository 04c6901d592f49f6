import Schemata.Proofs.Table.Modifiers
import Schemata.Proofs.Text.Escapes

/-!
# Literals in statements

The default of a string stands in the statement of its table between quotes, and the literal is
written in one way for both dialects.  A reader that knows doubled quotes only reads the string
back, whatever it is, and so does Postgres.  The generic dialect has escapes, which the literal does
not know of: a backslash in the string may change it or let the literal end where it should not.

* `Dialect.readString` — how a dialect reads a string from its opening quote, with
  `Dialect.readString_generic_smuggled` for what may be left outside;
* `Column.render_of_default`, `Table.stops_afterDefault` — what stands around a default;
* `Table.string_default_is_read` — what each dialect reads there;
* `Table.smuggled_default` — a default that the generic dialect reads as SQL;
* `Table.quoting_is_undone` — a literal is read back in front of anything but another quote.
-/

namespace Schemata

/-! ### Reading literals -/

namespace Dialect

/-- How the dialect reads a string from behind its opening quote. -/
def unquote : Dialect → List Char → Option (List Char × List Char)
  | .generic => Reader.unescape
  | .postgres => Reader.unquote

/-- The string of a literal that starts the text, and what comes after the literal. -/
def readString (d : Dialect) (text : String) : Option (String × String) :=
  match text.toList with
  | '\'' :: cs => (d.unquote cs).map fun (s, rest) => (String.ofList s, String.ofList rest)
  | _ => none

variable {d : Dialect} {s rest x y : String}

/-- Reading a string that was written, told by its characters. -/
theorem readString_sql_iff :
    d.readString ((ColumnDefault.string s).sql ++ rest) = some (x, y) ↔
      d.unquote (ColumnDefault.quoted s.toList ++ '\'' :: rest.toList) =
        some (x.toList, y.toList) := by
  have htext : ((ColumnDefault.string s).sql ++ rest).toList =
      '\'' :: (ColumnDefault.quoted s.toList ++ '\'' :: rest.toList) := by
    simp [ColumnDefault.sql]
  rw [readString, htext]
  constructor
  · intro h
    obtain ⟨⟨y, r⟩, hread, hxy⟩ := Option.map_eq_some_iff.1 h
    cases hxy
    simpa using hread
  · intro h
    simp [h]

/-- Whatever comes after a backslash and a quote is left outside of the literal. -/
theorem readString_generic_smuggled {c : Char} {cs : List Char} (hs : s.toList = c :: cs)
    (hc : c ≠ '\'') (rest : String) :
    generic.readString ((ColumnDefault.string ("\\'" ++ s)).sql ++ rest) =
      some ("'", String.ofList (ColumnDefault.quoted s.toList) ++ "'" ++ rest) := by
  have hread := Reader.unescape_quoted_backslash_quote hc cs rest.toList
  rw [← hs] at hread
  exact readString_sql_iff.2 (by simpa [unquote] using hread)

variable (hrest : Reader.Stops (· == '\'') rest.toList)
include hrest

/-- Doubled quotes are all that Postgres knows. -/
theorem readString_postgres :
    postgres.readString ((ColumnDefault.string s).sql ++ rest) = some (s, rest) :=
  readString_sql_iff.2 (Reader.unquote_quoted hrest)

theorem exists_readString_generic_iff :
    (∃ x, generic.readString ((ColumnDefault.string s).sql ++ rest) = some (x, rest)) ↔
      Reader.IsContained s.toList := by
  rw [← Reader.exists_unescape_quoted_iff hrest]
  constructor
  · rintro ⟨x, hx⟩
    exact ⟨x.toList, readString_sql_iff.1 hx⟩
  · rintro ⟨x, hx⟩
    exact ⟨String.ofList x, readString_sql_iff.2 (by simpa [unquote] using hx)⟩

theorem readString_generic_iff :
    generic.readString ((ColumnDefault.string s).sql ++ rest) = some (s, rest) ↔
      Reader.IsVerbatim s.toList :=
  readString_sql_iff.trans (Reader.unescape_quoted_eq_self_iff hrest)

end Dialect

/-! ### The place of a default -/

namespace Column

/-- The text of the column up to its default. -/
def untilDefault (c : Column) (d : Dialect) : String :=
  c.name ++ " " ++ d.typeName c.kind ++ c.nullClause ++ c.keyClause d ++ " DEFAULT "

theorem render_of_default {c : Column} {v : ColumnDefault} (h : c.default = some v)
    (d : Dialect) : c.render d = c.untilDefault d ++ v.sql ++ c.uniqueClause := by
  simp [render, untilDefault, defaultClause, h, String.append_assoc]

end Column

namespace Table

/-- The statement of a table up to the default of a column, after the texts of others. -/
def untilDefault (name : String) (texts : List String) (c : Column) (d : Dialect) : String :=
  "CREATE TABLE IF NOT EXISTS " ++ name ++ " (" ++ String.join (texts.map (· ++ ", ")) ++
    c.untilDefault d

/-- The statement of a table from the end of a default on, before the texts of others. -/
def afterDefault (c : Column) (texts : List String) : String :=
  c.uniqueClause ++ String.join (texts.map (", " ++ ·)) ++ ");"

variable {t : Table} {before after : List Fragment} {c : Column} {s sql : String}

theorem createSql_of_default {v : ColumnDefault} (h : c.default = some v) (name : String)
    (d : Dialect) (us vs : List String) :
    createSql name (us ++ c.render d :: vs) =
      untilDefault name us c d ++ (v.sql ++ afterDefault c vs) := by
  unfold createSql untilDefault afterDefault
  simp only [intercalate_append_cons, Column.render_of_default h, String.append_assoc]

/-- A text without quotes may come after a literal. -/
theorem stops_of_all {s : String} (hne : s.toList ≠ [])
    (hall : s.toList.all (· ≠ '\'') = true) (rest : List Char) :
    Reader.Stops (· == '\'') (s.toList ++ rest) :=
  Reader.stops_append hne fun c hc => by simpa using List.all_eq_true.1 hall c hc

/-- No quote comes after a default. -/
theorem stops_afterDefault (c : Column) (texts : List String) :
    Reader.Stops (· == '\'') (afterDefault c texts).toList := by
  simp only [afterDefault, String.toList_append, List.append_assoc]
  cases hu : c.unique with
  | true =>
    simp only [Column.uniqueClause, hu, if_true]
    exact stops_of_all (by decide) (by decide) _
  | false =>
    simp only [Column.uniqueClause, hu, Bool.false_eq_true, if_false]
    cases texts with
    | nil =>
      rw [List.map_nil, ← List.append_nil ");".toList]
      exact stops_of_all (s := ");") (by decide) (by decide) []
    | cons text texts =>
      simp only [List.map_cons, String.join_cons, String.toList_append, List.append_assoc]
      exact stops_of_all (s := ", ") (by decide) (by decide) _

/-- **What is read of a default.**  In a statement the literal of a string stands right after the
other clauses of its column.  Postgres reads the string back.  The generic dialect reads up to the
quote that was written last exactly if no backslash of the string escapes a quote or the end, and
reads the string back exactly if backslashes stand before `%` and `_` only. -/
theorem string_default_is_read (ht : t.fragments = before ++ .column c :: after)
    (hs : c.default = some (.string s)) (h : (t.perform .create).reply = .ok (some sql)) :
    ∃ name us vs, t.name = some name ∧ Fragment.renderAll t.dialect before = .ok us ∧
      Fragment.renderAll t.dialect after = .ok vs ∧
      let literal := "'" ++ String.ofList (ColumnDefault.quoted s.toList) ++ "'"
      let rest := afterDefault c vs
      sql = untilDefault name us c t.dialect ++ (literal ++ rest) ∧
      (t.dialect = .postgres → t.dialect.readString (literal ++ rest) = some (s, rest)) ∧
      (t.dialect = .generic →
        ((∃ x, t.dialect.readString (literal ++ rest) = some (x, rest)) ↔
          Reader.IsContained s.toList) ∧
        (t.dialect.readString (literal ++ rest) = some (s, rest) ↔
          Reader.IsVerbatim s.toList)) := by
  obtain ⟨name, us, vs, hn, hus, hvs, rfl⟩ := create_eq_ok_of_column ht h
  have hrest := stops_afterDefault c vs
  refine ⟨name, us, vs, hn, hus, hvs, createSql_of_default hs name t.dialect us vs,
    fun hd => ?_, fun hd => ?_⟩
  · rw [hd]
    exact Dialect.readString_postgres hrest
  · rw [hd]
    exact ⟨Dialect.exists_readString_generic_iff hrest, Dialect.readString_generic_iff hrest⟩

/-- A table with one column, for the text of an entry. -/
def entryTable (d : Dialect) (value : String) : Table :=
  { dialect := d, name := some "posts"
    fragments := [.column { name := "body", kind := .text, default := some (.string value) }] }

/-- A default with a quote, and with a backslash before a wildcard, is read back. -/
theorem quote_and_wildcard_are_read :
    let value := "it's 5\\% off"
    ∃ front rest,
      "CREATE TABLE IF NOT EXISTS posts (body TEXT NOT NULL DEFAULT 'it''s 5\\% off');" =
        front ++ ((ColumnDefault.string value).sql ++ rest) ∧
      Dialect.generic.readString ((ColumnDefault.string value).sql ++ rest) =
        some (value, rest) := by
  intro value
  have hverbatim : Reader.IsVerbatim value.toList := Reader.isVerbatim_iff.2 (by decide +kernel)
  have hcreate : ((entryTable .generic value).perform .create).reply = .ok (some
      "CREATE TABLE IF NOT EXISTS posts (body TEXT NOT NULL DEFAULT 'it''s 5\\% off');") := by
    decide +kernel
  have hfragments : (entryTable .generic value).fragments =
    [] ++ .column { name := "body", kind := .text, default := some (.string value) } :: [] := rfl
  obtain ⟨name, us, vs, -, -, -, hsql, -, hgeneric⟩ :=
    string_default_is_read hfragments rfl hcreate
  exact ⟨_, _, hsql, (hgeneric rfl).2.2 hverbatim⟩

/-- A default that closes its literal itself.  What comes after the quote is read as SQL, and in
the Postgres dialect it is not. -/
theorem smuggled_default :
    let value := "\\'); DROP TABLE users; -- "
    let literal := "'\\''); DROP TABLE users; -- '"
    (∀ d, ((entryTable d value).perform .create).reply =
      .ok (some ("CREATE TABLE IF NOT EXISTS posts (body TEXT NOT NULL DEFAULT " ++
        (literal ++ ");")))) ∧
    Dialect.generic.readString (literal ++ ");") = some ("'", "); DROP TABLE users; -- ');") ∧
    Dialect.postgres.readString (literal ++ ");") = some (value, ");") := by
  have hsql : (ColumnDefault.string "\\'); DROP TABLE users; -- ").sql =
      "'\\''); DROP TABLE users; -- '" := by decide +kernel
  refine ⟨fun d => by cases d <;> decide +kernel, ?_, ?_⟩
  · rw [← hsql]
    -- the quote that the backslash escapes is the first of the two that stand for it
    exact Dialect.readString_generic_smuggled (s := "); DROP TABLE users; -- ") rfl (by decide) ");"
  · rw [← hsql]
    exact Dialect.readString_postgres (stops_afterDefault { name := "body", kind := .text } [])

/-! ### Reading back by doubled quotes -/

/-- A text goes on without a quote if its first character is none. -/
theorem stops_quote_iff {rest : List Char} :
    Reader.Stops (· == '\'') rest ↔ rest.head? ≠ some '\'' := by
  cases rest <;> simp [Reader.Stops]

/-- No quote comes after a default in the text of a column. -/
theorem stops_uniqueClause (c : Column) : Reader.Stops (· == '\'') c.uniqueClause.toList := by
  cases hu : c.unique with
  | true =>
    simp only [Column.uniqueClause, hu, if_true]
    exact Reader.stops_cons.2 (by decide)
  | false =>
    simp only [Column.uniqueClause, hu, Bool.false_eq_true, if_false]
    exact stops_quote_iff.2 (by decide)

/-- **Quoting is undone by reading.**  Whatever a string consists of, a reader that takes two quotes
for one gives the string back from its literal and leaves what comes after it, exactly if this does
not start with a quote.  No text that comes after a default does, neither in a column nor in a
statement. -/
theorem quoting_is_undone (s : String) :
    (∀ rest : List Char,
      Reader.string.run ((ColumnDefault.string s).sql.toList ++ rest) = some (s, rest) ↔
        rest.head? ≠ some '\'') ∧
    (∀ (c : Column) (d : Dialect), c.default = some (.string s) →
      c.render d = c.untilDefault d ++ ((ColumnDefault.string s).sql ++ c.uniqueClause) ∧
      Reader.string.run ((ColumnDefault.string s).sql ++ c.uniqueClause).toList =
        some (s, c.uniqueClause.toList)) ∧
    ∀ (t : Table) (before : List Fragment) (c : Column) (after : List Fragment) (sql : String),
      t.fragments = before ++ .column c :: after → c.default = some (.string s) →
      (t.perform .create).reply = .ok (some sql) →
      ∃ name us vs, t.name = some name ∧ Fragment.renderAll t.dialect before = .ok us ∧
        Fragment.renderAll t.dialect after = .ok vs ∧
        sql = untilDefault name us c t.dialect ++
          ((ColumnDefault.string s).sql ++ afterDefault c vs) ∧
        Reader.string.run ((ColumnDefault.string s).sql ++ afterDefault c vs).toList =
          some (s, (afterDefault c vs).toList) := by
  have hread {rest : String} (h : Reader.Stops (· == '\'') rest.toList) :
      Reader.string.run ((ColumnDefault.string s).sql ++ rest).toList = some (s, rest.toList) := by
    rw [String.toList_append]
    exact Reader.run_string_sql_iff.2 h
  refine ⟨fun rest => Reader.run_string_sql_iff.trans stops_quote_iff, fun c d hc => ⟨?_, ?_⟩,
    fun t before c after sql ht hc h => ?_⟩
  · rw [Column.render_of_default hc, String.append_assoc]
  · exact hread (stops_uniqueClause c)
  · obtain ⟨name, us, vs, hn, hus, hvs, rfl⟩ := create_eq_ok_of_column ht h
    exact ⟨name, us, vs, hn, hus, hvs, createSql_of_default hc name t.dialect us vs,
      hread (stops_afterDefault c vs)⟩

/-- A default that starts and ends in quotes and has a pair of them inside. -/
theorem quotes_are_read :
    let value := "'it''s'"
    ∃ front rest,
      "CREATE TABLE IF NOT EXISTS posts (body TEXT NOT NULL DEFAULT '''it''''s''');" =
        front ++ ((ColumnDefault.string value).sql ++ rest) ∧
      Reader.string.run ((ColumnDefault.string value).sql ++ rest).toList =
        some (value, rest.toList) := by
  intro value
  have hcreate : ((entryTable .postgres value).perform .create).reply = .ok (some
      "CREATE TABLE IF NOT EXISTS posts (body TEXT NOT NULL DEFAULT '''it''''s''');") := by
    decide +kernel
  obtain ⟨name, us, vs, -, -, -, hsql, hread⟩ :=
    (quoting_is_undone value).2.2 (entryTable .postgres value) [] _ [] _ rfl rfl hcreate
  exact ⟨_, _, hsql, hread⟩

end Table

end Schemata
