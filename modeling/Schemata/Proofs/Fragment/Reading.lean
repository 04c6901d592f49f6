import Schemata.Fragment
import Schemata.Proofs.Identifier
import Schemata.Proofs.Text.Reader

/-!
# Reading fragments

The text of a fragment tells what the fragment is.  Its first word is `CONSTRAINT` for a foreign
key and the name for a column, and no valid name is `CONSTRAINT`.  The clauses of a column are
optional, but each shows by its first characters which one it is, and a string ends at its first
quote that stands alone.  A type name tells the kind without the dialect, except that all points
in time have one type.

* `ColumnKind.shown`, `Fragment.shown` — a kind and a fragment as far as their texts tell;
* `Fragment.IsLegible` — valid identifiers, two known sides of a foreign key, and a default that
  is a string, an integer or the current time;
* `Fragment.reads_render` — the text of a legible fragment, read back up to a comma or a closing
  parenthesis.
-/

namespace Schemata

/-! ### Kinds -/

namespace ColumnKind

/-- Whether the kind is a point in time. -/
def isTime : ColumnKind → Bool
  | .dateTime | .createdAt | .updatedAt => true
  | _ => false

/-- The kind as far as its type tells. -/
def shown : ColumnKind → ColumnKind
  | .createdAt | .updatedAt => .dateTime
  | k => k

/-- Whether the kinds are equal or both points in time. -/
def Alike (k k' : ColumnKind) : Prop :=
  k = k' ∨ k.isTime ∧ k'.isTime

theorem shown_eq_shown_iff {k k' : ColumnKind} : k.shown = k'.shown ↔ k.Alike k' := by
  cases k <;> cases k' <;> simp [shown, Alike, isTime]

theorem Alike.isPrimaryKey_eq {k k' : ColumnKind} (h : k.Alike k') :
    k.isPrimaryKey = k'.isPrimaryKey := by
  rcases h with rfl | ⟨hk, hk'⟩
  · rfl
  · cases k <;> cases hk <;> cases k' <;> cases hk' <;> rfl

end ColumnKind

namespace Reader

/-- Reads on after the first word of a type. -/
def kindAfter : String → Reader ColumnKind
  | "SERIAL" => pure .id
  | "INTEGER" => do
    let sized ← flag "(11)"
    return if sized then .integer else .id
  | "INT" => pure .unsignedInteger
  | "bigint" => pure .integer
  | "VARCHAR" => do
    literal "("
    let length ← natural
    literal ")"
    return .string length
  | "TEXT" => pure .text
  | "timestamp" => do
    literal " without time zone"
    return .dateTime
  | "datetime" => pure .dateTime
  | _ => failure

/-- Reads a type. -/
def kind : Reader ColumnKind := do
  let w ← word
  kindAfter w

theorem reads_kind_of_word {w : String} {s rest : List Char} {k : ColumnKind}
    (hw : w.toList.all Identifier.isTail = true) (hs : Stops Identifier.isTail (s ++ rest))
    (h : Reads (kindAfter w) s k rest) : Reads kind (w.toList ++ s) k rest :=
  (reads_word hw hs).bind h

theorem reads_kind (d : Dialect) (k : ColumnKind) (rest : List Char) :
    Reads kind (d.typeName k).toList k.shown (' ' :: rest) := by
  have hspace : Stops Identifier.isTail (' ' :: rest) := stops_cons.2 (by decide)
  have hparen (cs : List Char) : Stops Identifier.isTail ('(' :: cs) := stops_cons.2 (by decide)
  have hlone {w : String} {k : ColumnKind} (hw : w.toList.all Identifier.isTail = true)
      (hk : kindAfter w = pure k) : Reads kind w.toList k (' ' :: rest) := by
    rw [← List.append_nil w.toList]
    exact reads_kind_of_word hw hspace (hk ▸ Reads.pure k _)
  cases k with
  | id =>
    cases d with
    | generic =>
      -- the same word as that of an integer, without its size
      exact reads_kind_of_word (w := "INTEGER") (s := []) rfl hspace
        ((reads_flag_false rfl).last rfl)
    | postgres => exact hlone rfl rfl
  | unsignedInteger => cases d <;> exact hlone rfl rfl
  | integer =>
    cases d with
    | generic =>
      exact reads_kind_of_word (w := "INTEGER") rfl (hparen _)
        ((reads_flag_true "(11)" _).last rfl)
    | postgres => exact hlone rfl rfl
  | string n =>
    have htext : (d.typeName (.string n)).toList =
        "VARCHAR".toList ++ ("(".toList ++ ((Decimal.ofNat n).toList ++ ")".toList)) := by
      cases d <;> simp [Dialect.typeName]
    rw [htext]
    refine reads_kind_of_word rfl (hparen _) ?_
    have hdigits : Stops Char.isDigit (")".toList ++ ' ' :: rest) := stops_cons.2 (by decide)
    exact (reads_literal "(" _).bind ((reads_natural hdigits).bind ((reads_literal ")" _).last rfl))
  | text => cases d <;> exact hlone rfl rfl
  | dateTime | createdAt | updatedAt =>
    cases d with
    | generic => exact hlone rfl rfl
    | postgres =>
      exact reads_kind_of_word (w := "timestamp") rfl hspace
        ((reads_literal " without time zone" _).last rfl)

end Reader

/-- A dialect gives two kinds one type exactly if they are equal or both points in time. -/
theorem ColumnKind.typeName_eq_typeName_iff {d : Dialect} {k k' : ColumnKind} :
    d.typeName k = d.typeName k' ↔ k.Alike k' := by
  constructor
  · intro h
    have hk := Reader.reads_kind d k []
    rw [h] at hk
    exact shown_eq_shown_iff.1 (hk.unique (Reader.reads_kind d k' []) rfl).1
  · rintro (rfl | ⟨hk, hk'⟩)
    · rfl
    · cases k <;> cases hk <;> cases k' <;> cases hk' <;> cases d <;> rfl

/-! ### Legible fragments -/

namespace ColumnDefault

/-- Whether the default is a string, an integer or the current time. -/
def IsLegible : ColumnDefault → Prop
  | .string _ | .integer _ => True
  | .expression sql => sql = "NOW()"

end ColumnDefault

namespace Fragment

/-- Whether the identifiers of the fragment are valid, both sides of a foreign key are known, and
the default of a column is legible. -/
def IsLegible : Fragment → Prop
  | .column c => Identifier.validate c.name = .ok () ∧ ∀ v ∈ c.default, v.IsLegible
  | .foreignKey k => Identifier.validate k.column = .ok () ∧
    (∃ column, k.references = some column ∧ Identifier.validate column = .ok ()) ∧
    ∃ table, k.table = some table ∧ Identifier.validate table = .ok ()

/-- The fragment as far as its text tells. -/
def shown : Fragment → Fragment
  | .column c => .column { c with kind := c.kind.shown }
  | .foreignKey k => .foreignKey k

end Fragment

namespace Reader

/-! ### What follows -/

/-- What may come after a clause: another one that starts with one of the letters, or the end of
the fragment. -/
inductive Follows (letters : List Char) : List Char → Prop
  /-- There is another fragment. -/
  | comma (cs : List Char) : Follows letters (',' :: cs)
  /-- There is no other fragment. -/
  | parenthesis (cs : List Char) : Follows letters (')' :: cs)
  /-- There is another clause. -/
  | clause {x : Char} (hx : x ∈ letters) (cs : List Char) : Follows letters (' ' :: x :: cs)

variable {letters rest : List Char}

theorem Follows.stops {p : Char → Bool} (h : Follows letters rest)
    (hp : p ' ' = false ∧ p ',' = false ∧ p ')' = false) : Stops p rest := by
  cases h with
  | comma cs => exact stops_cons.2 hp.2.1
  | parenthesis cs => exact stops_cons.2 hp.2.2
  | clause hx cs => exact stops_cons.2 hp.1

theorem Follows.isPrefixOf?_eq_none {x : Char} (h : Follows letters rest) (hx : x ∉ letters)
    (cs : List Char) : (' ' :: x :: cs).isPrefixOf? rest = none := by
  cases h with
  | comma _ => rfl
  | parenthesis _ => rfl
  | @clause y hy ds =>
    have hne : x ≠ y := by
      rintro rfl
      exact hx hy
    simp [List.isPrefixOf?, hne]

theorem Follows.mono {more : List Char} (h : Follows letters rest) (hm : letters ⊆ more) :
    Follows more rest := by
  cases h with
  | comma cs => exact .comma cs
  | parenthesis cs => exact .parenthesis cs
  | clause hx cs => exact .clause (hm hx) cs

/-! ### Columns -/

/-- Reads a default. -/
def columnDefault : Reader ColumnDefault := do
  let opened ← flag "'"
  if opened then
    let s ← closing
    return .string s
  else
    let now ← flag "NOW()"
    if now then
      return .expression "NOW()"
    else
      let n ← integer
      return .integer n

/-- Reads whether a column may be without a value. -/
def nullability : Reader Bool := do
  let required ← flag " NOT"
  literal " NULL"
  return !required

/-- Reads over the clause of a primary key, which the type has told. -/
def primaryKey : Reader Unit := do
  let _ ← flag " PRIMARY KEY"
  let _ ← flag " AUTO_INCREMENT"
  return ()

/-- Reads the default of a column, if it has one. -/
def optionalDefault : Reader (Option ColumnDefault) := do
  let present ← flag " DEFAULT "
  if present then
    let v ← columnDefault
    return some v
  else
    return none

/-- Reads a column after its name. -/
def columnAfter (name : String) : Reader Fragment := do
  literal " "
  let kind ← kind
  let nullable ← nullability
  primaryKey
  let default ← optionalDefault
  let unique ← flag " UNIQUE"
  return .column { name, kind, nullable, default, unique }

theorem reads_columnDefault {v : ColumnDefault} (hv : v.IsLegible) (h : Follows letters rest) :
    Reads columnDefault v.sql.toList v rest := by
  cases v with
  | string s =>
    have hquote : Stops (· == '\'') rest := h.stops (by decide)
    have htext : (ColumnDefault.string s).sql.toList =
        "'".toList ++ (ColumnDefault.quoted s.toList ++ ['\'']) := by
      simp [ColumnDefault.sql]
    rw [htext]
    exact (reads_flag_true "'" _).bind ((reads_closing hquote).last rfl)
  | integer n =>
    have hdigits : Stops Char.isDigit rest := h.stops (by decide)
    have hquote : Reads (flag "'") [] false ((Decimal.ofInt n).toList ++ rest) :=
      reads_flag_false (isPrefixOf?_of_stops (stops_ofInt (by decide) n rest))
    have hnow : Reads (flag "NOW()") [] false ((Decimal.ofInt n).toList ++ rest) :=
      reads_flag_false (isPrefixOf?_of_stops (stops_ofInt (by decide) n rest))
    exact hquote.bind_nil (hnow.bind_nil ((reads_integer hdigits).last rfl))
  | expression sql =>
    obtain rfl : sql = "NOW()" := hv
    exact (reads_flag_false rfl).bind_nil ((reads_flag_true "NOW()" rest).last rfl)

theorem reads_nullability (c : Column) (rest : List Char) :
    Reads nullability c.nullClause.toList c.nullable rest := by
  cases hn : c.nullable with
  | true =>
    rw [Column.nullClause, if_pos hn]
    exact (reads_flag_false rfl).bind_nil ((reads_literal " NULL" rest).last rfl)
  | false =>
    rw [Column.nullClause, if_neg (by simp [hn])]
    exact (reads_flag_true " NOT" _).bind ((reads_literal " NULL" rest).last rfl)

theorem reads_primaryKey (c : Column) (d : Dialect) (h : Follows ['D', 'U'] rest) :
    Reads primaryKey (c.keyClause d).toList () rest := by
  have hkey : " PRIMARY KEY".toList.isPrefixOf? rest = none := h.isPrefixOf?_eq_none (by decide) _
  have hnumbering : " AUTO_INCREMENT".toList.isPrefixOf? rest = none :=
    h.isPrefixOf?_eq_none (by decide) _
  cases hk : c.kind.isPrimaryKey with
  | true =>
    rw [Column.keyClause, if_pos hk]
    cases d with
    | generic =>
      exact (reads_flag_true " PRIMARY KEY" _).bind
        ((reads_flag_true " AUTO_INCREMENT" _).last rfl)
    | postgres =>
      exact (reads_flag_true " PRIMARY KEY" _).bind ((reads_flag_false hnumbering).last rfl)
  | false =>
    rw [Column.keyClause, if_neg (by simp [hk])]
    exact (reads_flag_false hkey).bind_nil ((reads_flag_false hnumbering).last rfl)

theorem reads_optionalDefault (c : Column) (hv : ∀ v ∈ c.default, v.IsLegible)
    (h : Follows ['U'] rest) : Reads optionalDefault c.defaultClause.toList c.default rest := by
  cases hd : c.default with
  | none =>
    have hnone : " DEFAULT ".toList.isPrefixOf? rest = none :=
      h.isPrefixOf?_eq_none (by decide) _
    rw [Column.defaultClause, hd]
    exact (reads_flag_false hnone).last rfl
  | some v =>
    rw [Column.defaultClause, hd, String.toList_append]
    exact (reads_flag_true " DEFAULT " _).bind ((reads_columnDefault (hv v hd) h).last rfl)

theorem reads_unique (c : Column) (h : Follows [] rest) :
    Reads (flag " UNIQUE") c.uniqueClause.toList c.unique rest :=
  reads_flag fun _ => h.isPrefixOf?_eq_none (by decide) _

theorem Follows.uniqueClause (c : Column) (h : Follows [] rest) :
    Follows ['U'] (c.uniqueClause.toList ++ rest) := by
  cases hu : c.unique with
  | true =>
    rw [Column.uniqueClause, if_pos hu]
    exact .clause (by decide) _
  | false =>
    rw [Column.uniqueClause, if_neg (by simp [hu])]
    exact h.mono (by simp)

theorem Follows.defaultClause (c : Column) (h : Follows ['U'] rest) :
    Follows ['D', 'U'] (c.defaultClause.toList ++ rest) := by
  cases hd : c.default with
  | none =>
    rw [Column.defaultClause, hd]
    exact h.mono (by simp)
  | some v =>
    rw [Column.defaultClause, hd, String.toList_append, List.append_assoc]
    exact .clause (by decide) _

theorem nullClause_append (c : Column) (rest : List Char) :
    ∃ cs, c.nullClause.toList ++ rest = ' ' :: cs := by
  cases hn : c.nullable with
  | true => exact ⟨_, by rw [Column.nullClause, if_pos hn]; rfl⟩
  | false => exact ⟨_, by rw [Column.nullClause, if_neg (by simp [hn])]; rfl⟩

theorem reads_columnAfter (c : Column) (d : Dialect) (hv : ∀ v ∈ c.default, v.IsLegible)
    (h : Follows [] rest) :
    Reads (columnAfter c.name)
      (" ".toList ++ ((d.typeName c.kind).toList ++ (c.nullClause.toList ++
        ((c.keyClause d).toList ++ (c.defaultClause.toList ++ c.uniqueClause.toList)))))
      (Fragment.column c).shown rest := by
  have hunique := h.uniqueClause c
  have hdefault : Follows ['D', 'U']
      (c.defaultClause.toList ++ c.uniqueClause.toList ++ rest) := by
    rw [List.append_assoc]
    exact hunique.defaultClause c
  have hkind (s : List Char) :
      Reads kind (d.typeName c.kind).toList c.kind.shown (c.nullClause.toList ++ s ++ rest) := by
    obtain ⟨cs, hcs⟩ := nullClause_append c (s ++ rest)
    rw [List.append_assoc, hcs]
    exact reads_kind d c.kind cs
  refine (reads_literal " " _).bind ((hkind _).bind ((reads_nullability c _).bind ?_))
  refine (reads_primaryKey c d hdefault).bind ?_
  exact (reads_optionalDefault c hv hunique).bind ((reads_unique c h).last rfl)

/-! ### Foreign keys -/

/-- Reads a foreign key after its first word. -/
def foreignKeyAfter : Reader Fragment := do
  literal " FK_"
  let column ← word
  literal " FOREIGN KEY("
  let _ ← word
  literal ") REFERENCES "
  let table ← word
  literal "("
  let references ← word
  literal ")"
  let cascadeOnDelete ← flag " ON DELETE CASCADE"
  return .foreignKey {
    column, references := some references, table := some table, cascadeOnDelete }

theorem reads_identifier {i : String} (hi : Identifier.validate i = .ok ())
    (h : Stops Identifier.isTail rest) : Reads word i.toList i rest :=
  reads_word (List.all_eq_true.2 (Identifier.isTail_of_validate hi)) h

theorem reads_foreignKeyAfter {k : ForeignKey} {column table : String}
    (hk : Identifier.validate k.column = .ok ()) (hc : Identifier.validate column = .ok ())
    (ht : Identifier.validate table = .ok ()) (hr : k.references = some column)
    (hto : k.table = some table) (h : Follows [] rest) :
    Reads foreignKeyAfter
      (" FK_".toList ++ (k.column.toList ++ (" FOREIGN KEY(".toList ++ (k.column.toList ++
        (") REFERENCES ".toList ++ (table.toList ++ ("(".toList ++ (column.toList ++
          (")".toList ++ k.cascadeClause.toList)))))))))
      (.foreignKey k) rest := by
  have hcascade : Reads (flag " ON DELETE CASCADE") k.cascadeClause.toList k.cascadeOnDelete rest :=
    reads_flag fun _ => h.isPrefixOf?_eq_none (by decide) _
  have hlast : (pure (.foreignKey { k with references := some column, table := some table }) :
      Reader Fragment) = pure (.foreignKey k) := by
    rw [← hr, ← hto]
  have hstop {x : Char} (hx : Identifier.isTail x = false) (cs : List Char) :
      Stops Identifier.isTail (x :: cs) := stops_cons.2 hx
  refine (reads_literal " FK_" _).bind ((reads_identifier hk (hstop (by decide) _)).bind ?_)
  refine (reads_literal " FOREIGN KEY(" _).bind
    ((reads_identifier hk (hstop (by decide) _)).bind ?_)
  refine (reads_literal ") REFERENCES " _).bind
    ((reads_identifier ht (hstop (by decide) _)).bind ?_)
  refine (reads_literal "(" _).bind ((reads_identifier hc (hstop (by decide) _)).bind ?_)
  exact (reads_literal ")" _).bind (hcascade.last hlast)

/-! ### Fragments -/

/-- Reads a fragment. -/
def fragment : Reader Fragment := do
  let first ← word
  if first = "CONSTRAINT" then foreignKeyAfter else columnAfter first

end Reader

namespace Fragment

open Reader

variable {d : Dialect} {rest : List Char} {f : Fragment} {text : String}

/-- The text of a legible fragment tells the fragment. -/
theorem reads_render (hf : f.IsLegible) (hr : f.render d = .ok text) (h : Follows [] rest) :
    Reads fragment text.toList f.shown rest := by
  cases f with
  | column c =>
    obtain ⟨hname, hv⟩ := hf
    obtain rfl : c.render d = text := by simpa [render] using hr
    have htext : (c.render d).toList =
        c.name.toList ++ (" ".toList ++ ((d.typeName c.kind).toList ++ (c.nullClause.toList ++
          ((c.keyClause d).toList ++ (c.defaultClause.toList ++ c.uniqueClause.toList))))) := by
      simp [Column.render]
    -- a column is told from a foreign key by its first word, which is not reserved
    have hnext : (if c.name = "CONSTRAINT" then foreignKeyAfter else columnAfter c.name) =
        columnAfter c.name :=
      if_neg (Identifier.ne_of_validate hname (by decide))
    rw [htext]
    refine (reads_identifier hname (stops_cons.2 (by decide))).bind ?_
    rw [hnext]
    exact reads_columnAfter c d hv h
  | foreignKey k =>
    obtain ⟨hk, ⟨column, href, hc⟩, table, hto, ht⟩ := hf
    have htext : text.toList =
        "CONSTRAINT".toList ++ (" FK_".toList ++ (k.column.toList ++ (" FOREIGN KEY(".toList ++
          (k.column.toList ++ (") REFERENCES ".toList ++ (table.toList ++ ("(".toList ++
            (column.toList ++ (")".toList ++ k.cascadeClause.toList))))))))) := by
      rw [render, ForeignKey.render, href, hto] at hr
      obtain rfl := Except.ok.inj hr
      simp
    rw [htext]
    refine (reads_word (w := "CONSTRAINT") rfl (stops_cons.2 (by decide))).bind ?_
    exact reads_foreignKeyAfter hk hc ht href hto h

end Fragment

end Schemata
