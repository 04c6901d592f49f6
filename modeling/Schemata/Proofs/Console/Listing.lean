import Schemata.Console.Run

/-!
# Lists of migrations

A list of migrations is printed line by line, as a table or as a JSON document.  Either way the
migrations come in their order, each with its name and its statement, and there is nothing else
between a heading and an end that do not depend on them.

* `Console.printed` — lines one after the other, each ended by a line feed;
* `Console.tableLines`, `Console.documentLines` — the lines of the two kinds of lists;
* `Console.table_eq_printed`, `Console.document_eq_printed` — these lines are what is printed.
-/

namespace Schemata

/-! ### Layout of JSON values -/

namespace Json

theorem indentedItems_eq_map (n : Nat) (vs : List Value) :
    indentedItems n vs = vs.map (Value.indentedAt n) := by
  induction vs with
  | nil => rfl
  | cons v vs ih => rw [indentedItems, ih, List.map_cons]

end Json

namespace Console

variable {r : Report} {reports : List Report}

/-! ### Lines -/

/-- What is printed of lines. -/
def printed (lines : List String) : String :=
  String.join (lines.map (· ++ "\n"))

theorem printed_append (lines lines' : List String) :
    printed (lines ++ lines') = printed lines ++ printed lines' := by
  rw [printed, List.map_append, String.join_append, ← printed, ← printed]

theorem printed_flatMap {α : Type} (f : α → List String) (xs : List α) :
    printed (xs.flatMap f) = String.join (xs.map fun x => printed (f x)) := by
  induction xs with
  | nil => rfl
  | cons x xs ih => rw [List.flatMap_cons, printed_append, ih, List.map_cons, String.join_cons]

/-! ### Tables -/

/-- The lines of a table: the dialect under a blank line, a rule, the name and the statement of each
migration, and a blank line. -/
def tableLines (d : Dialect) (reports : List Report) : List String :=
  ["", "Migrations (" ++ d.name ++ "):", String.ofList (List.replicate 60 '-')] ++
    reports.flatMap (fun r => [" " ++ r.name, "     " ++ r.sql]) ++ [""]

theorem table_eq_printed (d : Dialect) (reports : List Report) :
    table d reports = printed (tableLines d reports) := by
  have hreport (r : Report) : printed [" " ++ r.name, "     " ++ r.sql] =
      " " ++ r.name ++ "\n     " ++ r.sql ++ "\n" := by
    simp [printed, ← String.toList_inj]
  have hreports : printed (reports.flatMap fun r => [" " ++ r.name, "     " ++ r.sql]) =
      String.join (reports.map fun r => " " ++ r.name ++ "\n     " ++ r.sql ++ "\n") := by
    rw [printed_flatMap]
    simp only [hreport]
  rw [tableLines, printed_append, printed_append, hreports]
  -- the rule is taken as it is, since character by character it is long
  generalize hrule : String.ofList (List.replicate 60 '-') = rule
  unfold table
  rw [hrule]
  simp [printed, ← String.toList_inj]

/-! ### Documents -/

/-- The lines of a report in a document.  The last one ends with `tail`. -/
def reportLines (tail : String) (r : Report) : List String :=
  ["  \x7b",
    "    \"name\": " ++ Json.quote r.name ++ ",",
    "    \"direction\": " ++ Json.quote r.direction.name ++ ",",
    "    \"sql\": " ++ Json.quote r.sql ++ ",",
    "    \"elapsed_ms\": " ++ Decimal.ofNat r.elapsed.wordMillis.toNat,
    "  \x7d" ++ tail]

/-- The lines of reports, with a comma after each but the last. -/
def listedLines : List Report → List String
  | [] => []
  | [r] => reportLines "" r
  | r :: r' :: rest => reportLines "," r ++ listedLines (r' :: rest)

/-- The lines of a document. -/
def documentLines : List Report → List String
  | [] => ["[]"]
  | r :: rest => ["["] ++ listedLines (r :: rest) ++ ["]"]

theorem printed_reportLines (tail : String) (r : Report) :
    printed (reportLines tail r) = "  " ++ r.toJson.indentedAt 1 ++ tail ++ "\n" := by
  have hname : Json.quote "name" = "\"name\"" := by decide +kernel
  have hdirection : Json.quote "direction" = "\"direction\"" := by decide +kernel
  have hsql : Json.quote "sql" = "\"sql\"" := by decide +kernel
  have helapsed : Json.quote "elapsed_ms" = "\"elapsed_ms\"" := by decide +kernel
  have hone : Json.newline 1 = "\n  " := rfl
  have htwo : Json.newline 2 = "\n    " := rfl
  simp only [Report.toJson, Json.Value.indentedAt, Json.indentedFields, hname, hdirection, hsql,
    helapsed, hone, htwo, String.intercalate_cons_cons, String.intercalate_singleton, reportLines,
    printed]
  simp [← String.toList_inj]

theorem printed_listedLines (r : Report) (rest : List Report) :
    printed (listedLines (r :: rest)) =
      "  " ++ String.intercalate ",\n  " ((r :: rest).map (·.toJson.indentedAt 1)) ++ "\n" := by
  induction rest generalizing r with
  | nil => simp [listedLines, printed_reportLines]
  | cons r' rest ih =>
    rw [listedLines, printed_append, printed_reportLines, ih]
    simp [String.intercalate_cons_cons, ← String.toList_inj]

theorem document_eq_printed (reports : List Report) :
    document reports = printed (documentLines reports) := by
  cases reports with
  | nil => rfl
  | cons r rest =>
    have hitems : Json.indentedItems 1 ((r :: rest).map Report.toJson) =
        (r :: rest).map (·.toJson.indentedAt 1) := by
      rw [Json.indentedItems_eq_map, List.map_map]
      rfl
    have hseparator : "," ++ Json.newline 1 = ",\n  " := rfl
    have hone : Json.newline 1 = "\n  " := rfl
    have hzero : Json.newline 0 = "\n" := rfl
    rw [documentLines, printed_append, printed_append, printed_listedLines, document,
      List.map_cons, Json.Value.indented, Json.Value.indentedAt, ← List.map_cons, hitems,
      hseparator, hone, hzero]
    generalize String.intercalate ",\n  " _ = items
    simp [printed, ← String.toList_inj]

end Console

end Schemata
