import Schemata.Proofs.Fragment.Reading
import Schemata.Proofs.Table.Invariant
import Schemata.Proofs.Text.Bare

/-!
# Statements of strict tables

A strict table holds valid identifiers only: each comes through the check of some call, apart from
those of the timestamps, which are valid anyway.  So the only text in its statements that is not
known beforehand stands between quotes, where it can do no harm, and a statement is one statement
whatever the strings are.

* `Fragment.IsSound` — valid identifiers, and a default that is not just any expression;
* `Fragment.nests_render` — the text of such a fragment closes all that it opens;
* `Table.isValid_after` — the identifiers of a strict table are valid, after every run;
* `Table.isSound_after` — every fragment of a strict table is sound, after every run;
* `Table.strict_statements_are_single` — the statements of strict tables.
-/

namespace Schemata

/-! ### Texts of fragments -/

namespace Sql

variable {n : Nat}

theorem isPlain_of_isTail {c : Char} (h : Identifier.isTail c = true) : isPlain c = true := by
  refine isPlain_iff.2 ⟨?_, ?_, ?_, ?_⟩ <;> rintro rfl <;> exact absurd h (by decide)

theorem isPlain_of_validate {w : String} (h : Identifier.validate w = .ok ()) :
    ∀ c ∈ w.toList, isPlain c = true :=
  fun c hc => isPlain_of_isTail (Identifier.isTail_of_validate h c hc)

namespace Nests

theorem identifier {w : String} (h : Identifier.validate w = .ok ()) : Nests n n w :=
  of_isPlain (isPlain_of_validate h)

theorem natural (k : Nat) : Nests n n (Decimal.ofNat k) := by
  refine of_isPlain fun c hc => isPlain_of_isTail ?_
  rw [Reader.toList_ofNat] at hc
  simp [Identifier.isTail, Char.isAlphanum, Decimal.isDigit_of_mem_digits hc]

theorem integer (k : Int) : Nests n n (Decimal.ofInt k) := by
  cases k with
  | ofNat k => exact natural k
  | negSucc k => exact (of_all (by decide)).append (natural (k + 1))

theorem typeName (d : Dialect) (k : ColumnKind) : Nests 0 0 (d.typeName k) := by
  cases k with
  | integer =>
    cases d with
    | generic => exact ⟨_, rfl, rfl, by decide⟩
    | postgres => exact of_all (by decide)
  | string length =>
    -- the one type whose text depends on a number
    have hopen : Nests 0 1 "VARCHAR(" := ⟨_, rfl, rfl, by decide⟩
    have hclose : Nests 1 0 ")" := ⟨_, rfl, rfl, by decide⟩
    cases d <;> exact (hopen.append (natural length)).append hclose
  | id | unsignedInteger | text | dateTime | createdAt | updatedAt =>
    cases d <;> exact of_all (by decide)

theorem columnDefault {v : ColumnDefault} (h : v.IsLegible) : Nests 0 0 v.sql := by
  cases v with
  | string s => exact literal s
  | integer k => exact integer k
  | expression sql =>
    obtain rfl : sql = "NOW()" := h
    exact ⟨_, rfl, rfl, by decide⟩

end Nests

end Sql

open Sql

theorem Column.nests_render {c : Column} (d : Dialect) (hname : Identifier.validate c.name = .ok ())
    (hdefault : ∀ v ∈ c.default, v.IsLegible) : Nests 0 0 (c.render d) := by
  have hnull : Nests 0 0 c.nullClause := by
    cases h : c.nullable <;> simp only [nullClause, h] <;> exact .of_all (by decide)
  have hkey : Nests 0 0 (c.keyClause d) := by
    cases d <;> cases h : c.kind.isPrimaryKey <;> simp only [keyClause, h] <;>
      exact .of_all (by decide)
  have hdefault : Nests 0 0 c.defaultClause := by
    cases hv : c.default with
    | none => simpa only [defaultClause, hv] using .of_all (by decide)
    | some v =>
      simp only [defaultClause, hv]
      exact (Nests.of_all (by decide)).append (.columnDefault (hdefault v hv))
  have hunique : Nests 0 0 c.uniqueClause := by
    cases h : c.unique <;> simp only [uniqueClause, h] <;> exact .of_all (by decide)
  have hspace : Nests 0 0 " " := .of_all (by decide)
  exact (((((Nests.identifier hname).append hspace).append (.typeName d c.kind)).append hnull
    |>.append hkey).append hdefault).append hunique

theorem ForeignKey.nests_render {k : ForeignKey} {text : String}
    (hcolumn : Identifier.validate k.column = .ok ())
    (hreferences : ∀ r ∈ k.references, Identifier.validate r = .ok ())
    (htable : ∀ n ∈ k.table, Identifier.validate n = .ok ()) (h : k.render = .ok text) :
    Nests 0 0 text := by
  have hcascade : Nests 0 0 k.cascadeClause := by
    cases h : k.cascadeOnDelete <;> simp only [cascadeClause, h] <;> exact .of_all (by decide)
  have hconstraint : Nests 0 0 "CONSTRAINT FK_" := .of_all (by decide)
  have hkey : Nests 0 1 " FOREIGN KEY(" := ⟨_, rfl, rfl, by decide⟩
  have hrefers : Nests 1 0 ") REFERENCES " := ⟨_, rfl, rfl, by decide⟩
  have hopen : Nests 0 1 "(" := ⟨_, rfl, rfl, by decide⟩
  have hclose : Nests 1 0 ")" := ⟨_, rfl, rfl, by decide⟩
  unfold render at h
  split at h
  next r n hr hn =>
    obtain rfl := Except.ok.inj h
    -- the local and the referenced column stand in parentheses of their own
    have hlocal : Nests 0 1 ("CONSTRAINT FK_" ++ k.column ++ " FOREIGN KEY(") :=
      (hconstraint.append (.identifier hcolumn)).append hkey
    have hother : Nests 0 1 ("CONSTRAINT FK_" ++ k.column ++ " FOREIGN KEY(" ++ k.column ++
        ") REFERENCES " ++ n ++ "(") :=
      (((hlocal.append (.identifier hcolumn)).append hrefers).append
        (.identifier (htable n hn))).append hopen
    exact ((hother.append (.identifier (hreferences r hr))).append hclose).append hcascade
  next => cases h

/-! ### Sound fragments -/

namespace Fragment

/-- The identifiers that the fragment is made of. -/
def identifiers : Fragment → List String
  | .column c => [c.name]
  | .foreignKey k => k.column :: (k.references.toList ++ k.table.toList)

/-- The default of the fragment, if it is a column that has one. -/
def default? : Fragment → Option ColumnDefault
  | .column c => c.default
  | .foreignKey _ => none

/-- The identifiers of the fragment are valid and its default is legible. -/
structure IsSound (f : Fragment) : Prop where
  /-- Every identifier is valid. -/
  identifiers : ∀ i ∈ f.identifiers, Identifier.validate i = .ok ()
  /-- The default is a string, an integer or the current time. -/
  default : ∀ v ∈ f.default?, v.IsLegible

variable {f : Fragment} {d : Dialect} {text : String}

theorem nests_render (hf : f.IsSound) (h : f.render d = .ok text) : Nests 0 0 text := by
  cases f with
  | column c =>
    obtain rfl : c.render d = text := Except.ok.inj h
    exact Column.nests_render d (hf.identifiers c.name (by simp [Fragment.identifiers])) hf.default
  | foreignKey k =>
    refine ForeignKey.nests_render (hf.identifiers k.column (by simp [Fragment.identifiers]))
      (fun r hr => hf.identifiers r ?_) (fun n hn => hf.identifiers n ?_) h
    · simp [Fragment.identifiers, Option.mem_def.1 hr]
    · simp [Fragment.identifiers, Option.mem_def.1 hn]

theorem nests_renderAll {fs : List Fragment} {texts : List String} (hfs : ∀ f ∈ fs, f.IsSound)
    (h : renderAll d fs = .ok texts) : ∀ text ∈ texts, Nests 0 0 text := by
  induction renderAll_eq_ok_iff.1 h with
  | nil => simp
  | cons hf _ ih =>
    rw [List.forall_mem_cons] at hfs ⊢
    exact ⟨nests_render hfs.1 hf, ih hfs.2 (renderAll_eq_ok_iff.2 ‹_›)⟩

end Fragment

/-! ### Strict runs -/

namespace Call

/-- Whether the call sets an expression as the default. -/
def givesExpression : Call → Bool
  | .default (.expression _) => true
  | _ => false

variable {c : Call} {f : Fragment}

theorem validate_of_mem_added (hraw : c.isRaw = false)
    (hvalid : ∀ i, c.identifier? = some i → Identifier.validate i = .ok ()) (hf : f ∈ c.added) :
    ∀ i ∈ f.identifiers, Identifier.validate i = .ok () := by
  cases c with
  | column name _ | foreign name =>
    obtain rfl := List.mem_singleton.1 hf
    simpa [Fragment.identifiers] using hvalid name rfl
  | timestamps =>
    -- these names are never checked
    have hcreated : Identifier.validate Table.createdAt.name = .ok () := rfl
    have hupdated : Identifier.validate Table.updatedAt.name = .ok () := rfl
    rcases List.mem_pair.1 hf with rfl | rfl
    · simpa [Fragment.identifiers] using hcreated
    · simpa [Fragment.identifiers] using hupdated
  | append f => cases hraw
  | _ => cases hf

theorem validate_change (hraw : c.isRaw = false)
    (hvalid : ∀ i, c.identifier? = some i → Identifier.validate i = .ok ())
    (hf : ∀ i ∈ f.identifiers, Identifier.validate i = .ok ()) :
    ∀ i ∈ (c.change f).identifiers, Identifier.validate i = .ok () := by
  cases f with
  | column col =>
    cases c with
    | replaceLast g => cases hraw
    | _ => exact hf
  | foreignKey k =>
    have hk := hf
    simp only [Fragment.identifiers, List.forall_mem_cons, List.forall_mem_append] at hk
    cases c with
    | references name =>
      simpa [change, Fragment.identifiers, hk.1, hvalid name rfl] using hk.2.2
    | on name =>
      simp only [change, Fragment.identifiers, List.forall_mem_cons, List.forall_mem_append]
      exact ⟨hk.1, hk.2.1, by simpa using hvalid name rfl⟩
    | replaceLast g => cases hraw
    | _ => exact hf

theorem isLegible_of_mem_added (hraw : c.isRaw = false) (hf : f ∈ c.added) :
    ∀ v ∈ f.default?, v.IsLegible := by
  cases c with
  | column _ _ | foreign _ =>
    obtain rfl := List.mem_singleton.1 hf
    simp [Fragment.default?]
  | timestamps =>
    rcases List.mem_pair.1 hf with rfl | rfl <;>
      simp [Fragment.default?, Table.createdAt, Table.updatedAt, ColumnDefault.IsLegible]
  | append f => cases hraw
  | _ => cases hf

theorem isLegible_change (hraw : c.isRaw = false) (hexpression : c.givesExpression = false)
    (hf : ∀ v ∈ f.default?, v.IsLegible) : ∀ v ∈ (c.change f).default?, v.IsLegible := by
  cases f with
  | column col =>
    cases c with
    | default value =>
      intro v hv
      obtain rfl : value = v := by simpa [change, Fragment.default?] using hv
      cases value with
      | string _ | integer _ => trivial
      | expression _ => cases hexpression
    | replaceLast g => cases hraw
    | _ => exact hf
  | foreignKey k =>
    cases c with
    | replaceLast g => cases hraw
    | _ => exact hf

end Call

namespace Table

/-- The name of the table and the identifiers of its fragments are valid. -/
structure IsValid (t : Table) : Prop where
  /-- The name is valid, if it is set. -/
  name : ∀ name, t.name = some name → Identifier.validate name = .ok ()
  /-- Every identifier of a fragment is valid. -/
  fragments : ∀ f ∈ t.fragments, ∀ i ∈ f.identifiers, Identifier.validate i = .ok ()

/-- The name of the table is valid and its fragments are sound. -/
structure IsSound (t : Table) : Prop where
  /-- The name is valid, if it is set. -/
  name : ∀ name, t.name = some name → Identifier.validate name = .ok ()
  /-- Every fragment is sound. -/
  fragments : ∀ f ∈ t.fragments, f.IsSound

variable {t : Table} {c : Call} {cs : List Call} {name sql : String} {texts : List String}

theorem isValid_step {reply : Option String} (hstrict : t.strict = true) (ht : t.IsValid)
    (hraw : c.isRaw = false) (h : (t.perform c).reply = .ok reply) :
    (t.perform c).table.IsValid := by
  have hvalid : ∀ i, c.identifier? = some i → Identifier.validate i = .ok () := fun i hi =>
    check_eq_ok_iff.1 ((exists_reply_eq_ok_iff.1 ⟨reply, h⟩).2 i hi) hstrict
  rw [table_of_reply_eq_ok h]
  refine ⟨fun name hname => ?_, Call.forall_mem_reshape ht.fragments ?_ ?_⟩
  · cases c with
    | setName name' =>
      obtain rfl : name' = name := by simpa [Call.rename] using hname
      exact hvalid name' rfl
    | reset => cases hname
    | _ => exact ht.name name hname
  · exact fun f hf => Call.validate_of_mem_added hraw hvalid hf
  · exact fun _ f _ hf => Call.validate_change hraw hvalid hf

/-- Whatever is called on a strict table, it holds the identifiers that it has checked. -/
theorem isValid_after (d : Dialect) (hcs : ∀ c ∈ cs, c.isRaw = false) :
    ((checked d).after cs).IsValid := by
  have hstart : (checked d).IsValid := ⟨nofun, nofun⟩
  -- the step needs the mode, so the invariant carries it
  suffices h : ((checked d).after cs).strict = true ∧ ((checked d).after cs).IsValid from h.2
  refine after_induction (P := fun t => t.strict = true ∧ t.IsValid) ⟨rfl, hstart⟩ ?_ hcs
  intro t c reply hraw h ⟨hstrict, ht⟩
  refine ⟨?_, isValid_step hstrict ht hraw h⟩
  rw [table_of_reply_eq_ok h]
  exact hstrict

/-- Defaults that calls give are legible unless they are expressions. -/
theorem isLegible_after (o : Origin)
    (hcs : ∀ c ∈ cs, c.isRaw = false ∧ c.givesExpression = false) :
    ∀ f ∈ (o.table.after cs).fragments, ∀ v ∈ f.default?, v.IsLegible := by
  refine after_induction (P := fun t => ∀ f ∈ t.fragments, ∀ v ∈ f.default?, v.IsLegible)
    (by simp [fragments_origin]) ?_ hcs
  intro t c reply hc h ht
  rw [table_of_reply_eq_ok h]
  refine Call.forall_mem_reshape ht ?_ ?_
  · exact fun f hf => Call.isLegible_of_mem_added hc.1 hf
  · exact fun _ f _ hf => Call.isLegible_change hc.1 hc.2 hf

/-- Whatever is called on a strict table, it holds what it has checked. -/
theorem isSound_after (d : Dialect)
    (hcs : ∀ c ∈ cs, c.isRaw = false ∧ c.givesExpression = false) :
    ((checked d).after cs).IsSound := by
  have hvalid := isValid_after d fun c hc => (hcs c hc).1
  have hlegible := isLegible_after (.checked d) hcs
  exact ⟨hvalid.name, fun f hf => ⟨hvalid.fragments f hf, hlegible f hf⟩⟩

/-! ### Statements -/

theorem isSingle_createSql (hname : Identifier.validate name = .ok ())
    (htexts : ∀ text ∈ texts, Nests 0 0 text) : IsSingle (createSql name texts) := by
  have hwords : Nests 0 0 "CREATE TABLE IF NOT EXISTS " := .of_all (by decide)
  have hopen : Nests 0 1 " (" := ⟨_, rfl, rfl, by decide⟩
  have hend : IsSingle ");" := ⟨[')'], [')'], rfl, rfl, by decide⟩
  have hstart : Nests 0 1 ("CREATE TABLE IF NOT EXISTS " ++ name ++ " (") :=
    (hwords.append (.identifier hname)).append hopen
  exact (hstart.append ((Nests.intercalate htexts).inside 1)).isSingle_append hend

theorem isEnclosed_createSql (hname : Identifier.validate name = .ok ())
    (htexts : ∀ text ∈ texts, Nests 0 0 text) : IsEnclosed (createSql name texts) := by
  -- the outermost parenthesis is opened right after the name, which has none of its own
  have hstart : ("CREATE TABLE IF NOT EXISTS " ++ name ++ " (").toList =
      "CREATE TABLE IF NOT EXISTS ".toList ++ name.toList ++ [' '] ++ ['('] := by
    simp
  refine isEnclosed_of_nests hstart (fun c hc => ?_) (.intercalate htexts)
  have hwords : "CREATE TABLE IF NOT EXISTS ".toList.all isPlain = true := by decide
  rcases List.mem_append.1 hc with hc | hc
  · rcases List.mem_append.1 hc with hc | hc
    · exact List.all_eq_true.1 hwords c hc
    · exact isPlain_of_validate hname c hc
  · obtain rfl := List.mem_singleton.1 hc
    rfl

theorem isSingle_dropSql (hname : Identifier.validate name = .ok ()) : IsSingle (dropSql name) := by
  have hwords : Nests 0 0 "DROP TABLE IF EXISTS " := .of_all (by decide)
  have hend : IsSingle ";" := ⟨[], [], rfl, rfl, by decide⟩
  exact (hwords.append (.identifier hname)).isSingle_append hend

/-- The statement of a sound table is one statement. -/
theorem IsSound.create_reply (ht : t.IsSound) (h : (t.perform .create).reply = .ok (some sql)) :
    IsSingle sql ∧ IsEnclosed sql := by
  obtain ⟨name, texts, hn, hr, hsql⟩ := create_reply_eq_ok_iff.1 h
  obtain rfl : sql = createSql name texts := Option.some.inj hsql
  have htexts := Fragment.nests_renderAll ht.fragments hr
  exact ⟨isSingle_createSql (ht.name name hn) htexts, isEnclosed_createSql (ht.name name hn) htexts⟩

theorem IsSound.drop_reply (ht : t.IsSound) (h : (t.perform .drop).reply = .ok (some sql)) :
    IsSingle sql := by
  cases hn : t.name with
  | none => simp [perform, drop, hn, refuse] at h
  | some name =>
    obtain rfl : dropSql name = sql := by simpa [perform, drop, hn, answer] using h
    exact isSingle_dropSql (ht.name name hn)

/-- **Statements of strict tables are single.** Whatever is called on a strict table apart from the
calls that give fragments and the defaults that are expressions, its name and the identifiers of its
fragments are valid, the statement that creates it is one statement that ends with its outermost
parentheses, and the one that drops it is one statement. -/
theorem strict_statements_are_single (d : Dialect)
    (hcs : ∀ c ∈ cs, c.isRaw = false ∧ c.givesExpression = false) :
    (∀ name, ((checked d).after cs).name = some name → Identifier.validate name = .ok ()) ∧
      (∀ f ∈ ((checked d).after cs).fragments, ∀ i ∈ f.identifiers,
        Identifier.validate i = .ok ()) ∧
      (∀ sql, (((checked d).after cs).perform .create).reply = .ok (some sql) →
        IsSingle sql ∧ IsEnclosed sql) ∧
      ∀ sql, (((checked d).after cs).perform .drop).reply = .ok (some sql) → IsSingle sql := by
  have hsound := isSound_after d hcs
  exact ⟨hsound.name, fun f hf => (hsound.fragments f hf).identifiers,
    fun _ => hsound.create_reply, fun _ => hsound.drop_reply⟩

/-- Calls with a default that would end the statement and start another one, were it not for the
quotes. -/
def injecting : List Call :=
  [.setName "notes", .column "body" .text, .default (.string "'); DROP TABLE notes; --"),
    .foreign "author", .references "id", .on "users"]

/-- Such a default stays in its literal. -/
theorem injecting_is_single :
    (((checked .generic).after injecting).perform .create).reply =
        .ok (some ("CREATE TABLE IF NOT EXISTS notes (body TEXT NOT NULL " ++
          "DEFAULT '''); DROP TABLE notes; --', " ++
          "CONSTRAINT FK_author FOREIGN KEY(author) REFERENCES users(id));")) ∧
      ∀ sql, (((checked .generic).after injecting).perform .create).reply = .ok (some sql) →
        IsSingle sql ∧ IsEnclosed sql := by
  have hcs : ∀ c ∈ injecting, c.isRaw = false ∧ c.givesExpression = false := by decide
  exact ⟨rfl, (strict_statements_are_single .generic hcs).2.2.1⟩

end Table

end Schemata
