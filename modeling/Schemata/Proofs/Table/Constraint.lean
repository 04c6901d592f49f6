import Schemata.Proofs.Table.Soundness

/-!
# Names of constraints

The text of a foreign key names its constraint after the local column, with `FK_` before it.  A
strict table checks the column and not this name.  The name starts well, goes on as the column does
and is never a reserved word, but it is three bytes longer, so it fits exactly if the column leaves
room for them.

* `ForeignKey.constraint` — the name of the constraint, and where it stands in the text
  (`ForeignKey.render_eq_ok_iff`);
* `Identifier.fault?_constraint` — the rule that such a name may break;
* `Table.constraint_valid_iff_column_fits` — the identifiers in the statements of strict tables;
* `Table.overlong_constraint` — a statement of a strict table with a name that is too long.
-/

namespace Schemata

/-! ### Names -/

namespace ForeignKey

/-- The name of the constraint. -/
def constraint (k : ForeignKey) : String :=
  "FK_" ++ k.column

variable {k : ForeignKey} {text : String}

theorem render_eq_ok_iff : k.render = .ok text ↔
    ∃ column table, k.references = some column ∧ k.table = some table ∧
      text = "CONSTRAINT " ++ k.constraint ++ " FOREIGN KEY(" ++ k.column ++ ") REFERENCES " ++
        table ++ "(" ++ column ++ ")" ++ k.cascadeClause := by
  have hwords : "CONSTRAINT " ++ k.constraint = "CONSTRAINT FK_" ++ k.column := by
    rw [constraint, ← String.append_assoc]
    rfl
  rw [hwords]
  cases hr : k.references <;> cases ht : k.table <;> simp [render, hr, ht, eq_comm]

end ForeignKey

namespace Identifier

variable {s : String}

/-- No reserved word starts like the name of a constraint. -/
theorem isReserved_constraint (s : String) : isReserved ("FK_" ++ s) = false := by
  have hwords : ∀ word ∈ reservedWords, (Ascii.lower word).take 3 ≠ ['f', 'k', '_'] := by decide
  refine List.any_eq_false.2 fun word hword hsame => hwords word hword ?_
  rw [Ascii.sameLetters_iff.1 hsame, Ascii.lower, String.toList_append]
  rfl

/-- The length is the only rule that the name of a constraint may break. -/
theorem fault?_constraint (h : validate s = .ok ()) :
    fault? ("FK_" ++ s) = if s.utf8ByteSize + 3 ≤ maxLength then none else some .length := by
  have hchars : ("FK_" ++ s).toList = 'F' :: 'K' :: '_' :: s.toList := by
    rw [String.toList_append]
    rfl
  have hsize : ("FK_" ++ s).utf8ByteSize = s.utf8ByteSize + 3 := by
    rw [String.utf8ByteSize_append, Nat.add_comm]
    rfl
  have htail : ('K' :: '_' :: s.toList).all isTail = true := by
    simpa using ⟨by decide, by decide, isTail_of_validate h⟩
  have hhead : isHead 'F' = true := by decide
  by_cases hfits : s.utf8ByteSize + 3 ≤ maxLength
  · simp [fault?, hchars, hsize, htail, hhead, hfits, isReserved_constraint]
  · simp [fault?, hchars, hsize, htail, hhead, hfits, Nat.lt_of_not_le hfits]

end Identifier

/-! ### Foreign keys -/

namespace ForeignKey

variable {k : ForeignKey}

theorem validate_constraint (h : Identifier.validate k.column = .ok ()) :
    Identifier.validate k.constraint =
      if k.column.utf8ByteSize + 3 ≤ Identifier.maxLength then .ok ()
      else .error (.invalidIdentifier k.constraint .length) := by
  rw [Identifier.validate, constraint, Identifier.fault?_constraint h]
  by_cases hfits : k.column.utf8ByteSize + 3 ≤ Identifier.maxLength <;> simp [hfits]

end ForeignKey

/-! ### Statements -/

namespace Table

variable {cs : List Call} {sql : String}

/-- **Names of constraints fit if their columns leave room.**  In the statement of a strict table
the table, the columns and all that foreign keys refer to have valid identifiers.  The name of the
constraint of a foreign key is valid exactly if its column is at least three bytes shorter than an
identifier may be; otherwise it is too long. -/
theorem constraint_valid_iff_column_fits (d : Dialect) (hcs : ∀ c ∈ cs, c.isRaw = false)
    (h : (((checked d).after cs).perform .create).reply = .ok (some sql)) :
    ∃ name texts, sql = createSql name texts ∧ Identifier.validate name = .ok () ∧
      List.Forall₂ (fun f text => f.render d = .ok text ∧
          (∀ i ∈ f.identifiers, Identifier.validate i = .ok ()) ∧
          ∀ k, f = .foreignKey k →
            (∃ rest, text = "CONSTRAINT " ++ k.constraint ++ " FOREIGN KEY(" ++ rest) ∧
            Identifier.validate k.constraint =
              if k.column.utf8ByteSize + 3 ≤ Identifier.maxLength then .ok ()
              else .error (.invalidIdentifier k.constraint .length))
        ((checked d).after cs).fragments texts := by
  have hvalid := isValid_after d hcs
  obtain ⟨name, texts, hname, hr, hsql⟩ := create_reply_eq_ok_iff.1 h
  rw [Fragment.renderAll_eq_ok_iff, (mode_after (checked d) cs).1] at hr
  refine ⟨name, texts, Option.some.inj hsql, hvalid.name name hname, ?_⟩
  refine ((List.forall₂_and_left _ _).2 ⟨hvalid.fragments, hr⟩).imp ?_
  rintro f text ⟨hf, htext⟩
  refine ⟨htext, hf, ?_⟩
  rintro k rfl
  obtain ⟨column, table, -, -, rfl⟩ := ForeignKey.render_eq_ok_iff.1 htext
  refine ⟨⟨k.column ++ ") REFERENCES " ++ table ++ "(" ++ column ++ ")" ++ k.cascadeClause, ?_⟩, ?_⟩
  · simp only [String.append_assoc]
  · exact ForeignKey.validate_constraint (hf k.column (by simp [Fragment.identifiers]))

/-- The calls of a table with one foreign key. -/
def invoiceCalls (column : String) : List Call :=
  [.setName "invoices", .foreign column, .references "id", .on "addresses"]

theorem isRaw_invoiceCalls (column : String) : ∀ c ∈ invoiceCalls column, c.isRaw = false := by
  simp [invoiceCalls, Call.isRaw]

/-- A short column leaves room. -/
theorem short_constraint :
    (∃ sql, (((checked .generic).after (invoiceCalls "address_id")).perform .create).reply =
      .ok (some sql)) ∧
    Identifier.validate "FK_address_id" = .ok () := by
  have hcreate : (((checked .generic).after (invoiceCalls "address_id")).perform .create).reply =
      .ok (some _) := create_reply_eq_ok_iff.2 ⟨"invoices", _, rfl, rfl, rfl⟩
  obtain ⟨name, texts, -, -, hall⟩ :=
    constraint_valid_iff_column_fits .generic (isRaw_invoiceCalls _) hcreate
  refine ⟨⟨_, hcreate⟩, ?_⟩
  cases hall with
  | cons hkey _ => exact (hkey.2.2 _ rfl).2

/-- A column that is valid, with two bytes less than an identifier may have. -/
def wideColumn : String :=
  "billing_address_of_the_previous_owner_of_the_customer_account"

/-- The column is accepted, and the statement has a name that is not. -/
theorem overlong_constraint :
    (∀ c ∈ invoiceCalls wideColumn, c.isRaw = false) ∧
    (((checked .generic).after (invoiceCalls wideColumn)).perform .create).reply =
      .ok (some ("CREATE TABLE IF NOT EXISTS invoices (CONSTRAINT FK_" ++ wideColumn ++
        " FOREIGN KEY(" ++ wideColumn ++ ") REFERENCES addresses(id));")) ∧
    Identifier.validate wideColumn = .ok () ∧
    Identifier.validate ("FK_" ++ wideColumn) =
      .error (.invalidIdentifier ("FK_" ++ wideColumn) .length) :=
  ⟨isRaw_invoiceCalls _, create_reply_eq_ok_iff.2 ⟨"invoices", _, rfl, rfl, rfl⟩, rfl, rfl⟩

end Table

end Schemata
