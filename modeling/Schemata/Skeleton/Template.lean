import Schemata.Skeleton.Kind

/-!
# Templates

The files that skeletons are made of, as texts with gaps.  In the text of a template a mark stands
for each gap, and the text is read once for every gap to put its value in place of its marks.

* `TemplatePiece` — a text or a gap;
* `SkeletonKind.template` — the template of a kind;
* `templateText` — the text of a template, with marks;
* `fillMarks` — marks replaced in one pass over a text;
* `fillInTurn` — one pass for every gap;
* `fillTemplate` — a template with every gap filled at once.
-/

namespace Schemata

/-! ### Pieces and gaps -/

/-- A gap in a template. -/
inductive TemplateGap where
  /-- The name of the generated type. -/
  | typeName
  /-- The table that the skeleton is about. -/
  | table
  /-- The name of the file without its ending. -/
  | fileStem
deriving DecidableEq, Repr

/-- The mark that stands for a gap. -/
def TemplateGap.mark : TemplateGap → String
  | .typeName => "\x7b\x7bstruct\x7d\x7d"
  | .table => "\x7b\x7btable\x7d\x7d"
  | .fileStem => "\x7b\x7bname\x7d\x7d"

/-- A part of a template. -/
inductive TemplatePiece where
  /-- A text that is always the same. -/
  | text (s : String)
  /-- A gap. -/
  | gap (g : TemplateGap)
deriving DecidableEq, Repr

/-- What the gaps of a template are filled with. -/
structure TemplateValues where
  /-- The name of the generated type. -/
  typeName : String
  /-- The table that the skeleton is about. -/
  table : String
  /-- The name of the file without its ending. -/
  fileStem : String
deriving DecidableEq, Repr

/-- What the gap is filled with. -/
def TemplateValues.get (v : TemplateValues) : TemplateGap → String
  | .typeName => v.typeName
  | .table => v.table
  | .fileStem => v.fileStem

/-! ### Filled at once -/

/-- The text of a part. -/
def TemplatePiece.fill (v : TemplateValues) : TemplatePiece → String
  | .text s => s
  | .gap g => v.get g

/-- The text of a template. -/
def fillTemplate (v : TemplateValues) (template : List TemplatePiece) : String :=
  String.join (template.map (·.fill v))

/-! ### Filled in passes over the text -/

/-- A part as it stands in the text of a template. -/
def TemplatePiece.written : TemplatePiece → String
  | .text s => s
  | .gap g => g.mark

/-- The text of a template, in which marks stand for the gaps. -/
def templateText (template : List TemplatePiece) : List Char :=
  template.flatMap (·.written.toList)

/-- The text with the value of its gap in place of every mark, for marks of the given gaps.  The
text is read from left to right, and what was put in is not read again. -/
def fillMarks (v : TemplateValues) (gaps : List TemplateGap) : List Char → List Char
  | [] => []
  | c :: cs =>
    match gaps.find? fun g => g.mark.toList.isPrefixOf (c :: cs) with
    | none => c :: fillMarks v gaps cs
    | some g => (v.get g).toList ++ fillMarks v gaps (cs.drop (g.mark.toList.length - 1))
termination_by cs => cs.length
decreasing_by
  · simp
  · simp only [List.length_drop, List.length_cons]
    omega

/-- The text after one pass for each of the gaps, in their order. -/
def fillInTurn (v : TemplateValues) (order : List TemplateGap) (text : List Char) : List Char :=
  order.foldl (fun text g => fillMarks v [g] text) text

/-! ### The templates -/

/-- A migration that makes a table with a key and timestamps, and drops it. -/
def migrationTemplate : List TemplatePiece :=
  [.text "use tablekit_core::\x7bResult, Table\x7d;\n",
   .text "use tablekit_migrate::Migration;\n\n",
   .text "/// Registered as `", .gap .fileStem, .text "`.\n",
   .text "pub struct ", .gap .typeName, .text ";\n\n",
   .text "impl Migration for ", .gap .typeName, .text " \x7b\n",
   .text "    fn up(&self, table: &mut Table) -> Result<String> \x7b\n",
   .text "        table.set_table(\"", .gap .table, .text "\")?;\n",
   .text "        table.id_default()?;\n",
   .text "        table.timestamps()?;\n",
   .text "        table.export()\n",
   .text "    \x7d\n\n",
   .text "    fn down(&self, table: &mut Table) -> Result<String> \x7b\n",
   .text "        table.set_table(\"", .gap .table, .text "\")?;\n",
   .text "        table.drop_statement()\n",
   .text "    \x7d\n",
   .text "\x7d\n"]

/-- The type of the rows of a table. -/
def modelTemplate : List TemplatePiece :=
  [.text "/// Row of the `", .gap .table, .text "` table.\n",
   .text "#[derive(Debug, Clone)]\n",
   .text "pub struct ", .gap .typeName, .text " \x7b\n",
   .text "    pub id: i64,\n",
   .text "\x7d\n\n",
   .text "impl ", .gap .typeName, .text " \x7b\n",
   .text "    /// Table backing this model.\n",
   .text "    pub const TABLE: &'static str = \"", .gap .table, .text "\";\n",
   .text "\x7d\n"]

/-- A seeder that adds one row. -/
def seederTemplate : List TemplatePiece :=
  [.text "use tablekit_core::Dialect;\n",
   .text "use tablekit_migrate::\x7bSeeder, StatementSink\x7d;\n\n",
   .text "pub struct ", .gap .typeName, .text ";\n\n",
   .text "impl Seeder for ", .gap .typeName, .text " \x7b\n",
   .text "    fn run(&self, _dialect: Dialect, sink: &mut dyn StatementSink)",
   .text " -> anyhow::Result<()> \x7b\n",
   .text "        sink.apply(\"", .gap .fileStem, .text "\", \"INSERT INTO ", .gap .table,
   .text " DEFAULT VALUES;\")?;\n",
   .text "        Ok(())\n",
   .text "    \x7d\n",
   .text "\x7d\n"]

/-- The template of a kind. -/
def SkeletonKind.template : SkeletonKind → List TemplatePiece
  | .migration => migrationTemplate
  | .model => modelTemplate
  | .seeder => seederTemplate

end Schemata
