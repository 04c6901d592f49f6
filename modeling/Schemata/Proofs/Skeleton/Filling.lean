import Schemata.Proofs.Skeleton.Containment
import Schemata.Proofs.Skeleton.Marks
import Schemata.Proofs.Skeleton.TableNames
import Schemata.Text.Blank

/-!
# The text of skeletons

The template of a skeleton is filled with the name of the type, the table and the stem of the file.
These have ASCII letters, digits, underscores and minus signs, whatever the user gives as a name,
so nothing that is put in makes a mark, and the passes over the template come to the same as filling
all gaps at once.

* `delimiters` — the characters that could end what a value stands in;
* `Skeleton.values` — the values of a skeleton, with `Skeleton.isPlainChar_of_mem_values`;
* `Skeleton.template_is_filled_at_once` — names and texts of all skeletons.
-/

namespace Schemata

/-! ### Plain characters -/

/-- Whether the character is an ASCII letter or digit, an underscore or a minus sign. -/
def isPlainChar (c : Char) : Bool :=
  c.isAlphanum || c == '_' || c == '-'

theorem isPlainChar_iff {c : Char} :
    isPlainChar c = true ↔ c.isAlphanum = true ∨ c = '_' ∨ c = '-' := by
  simp [isPlainChar, or_assoc]

theorem isPlainChar_of_isSmall {c : Char} (h : SkeletonName.isSmall c = true) :
    isPlainChar c = true :=
  isPlainChar_iff.2 (.inl (SkeletonName.isSmall_iff.1 h).1)

/-- Braces, quotes, and what separates the parts of paths. -/
def delimiters : String :=
  "\x7b\x7d\"'`\\/."

/-- A plain character is neither a delimiter nor blank. -/
theorem not_delimiter_of_isPlainChar {c : Char} (h : isPlainChar c = true) :
    c ∉ delimiters.toList ∧ isBlank c = false := by
  constructor
  · have hnone : delimiters.toList.any isPlainChar = false := by decide +kernel
    intro hmem
    exact Bool.eq_false_iff.1 hnone (List.any_eq_true.2 ⟨c, hmem, h⟩)
  · rw [Bool.eq_false_iff]
    intro hblank
    rcases isPlainChar_iff.1 h with halnum | rfl | rfl
    · rw [Char.isAlphanum, Bool.or_eq_true, Ascii.isAlpha_iff, Ascii.isDigit_iff] at halnum
      simp only [isBlank, Bool.or_eq_true, Bool.and_eq_true, decide_eq_true_eq, beq_iff_eq]
        at hblank
      omega
    · cases hblank
    · cases hblank

namespace Skeleton

variable {kind : SkeletonKind} {name : String} {seconds : Int} {s : Skeleton} {n : List Char}

/-! ### Values -/

/-- The values that the template of a skeleton is filled with. -/
def values (s : Skeleton) : TemplateValues :=
  { typeName := s.typeName, table := s.table, fileStem := s.fileStem }

/-- The values of a skeleton have plain characters. -/
theorem isPlainChar_of_mem_values (h : SkeletonName.IsJoined n) (kind : SkeletonKind)
    (seconds : Int) (g : TemplateGap) {c : Char}
    (hc : c ∈ ((ofName kind n seconds).values.get g).toList) : isPlainChar c = true := by
  cases g with
  | typeName =>
    have hcamel : c ∈ SkeletonName.camel n := by
      simpa [values, TemplateValues.get, ofName] using hc
    exact isPlainChar_iff.2 (.inl (SkeletonName.isAlphanum_of_mem_camel h hcamel))
  | table =>
    rcases (isJoined_table kind h).mem c hc with rfl | hsmall
    · rfl
    · exact isPlainChar_of_isSmall hsmall
  | fileStem =>
    rcases mem_stem h hc with hsmall | rfl | ⟨rfl, -⟩
    · exact isPlainChar_of_isSmall hsmall
    · rfl
    · rfl

/-- No value of a skeleton has a brace. -/
theorem bracesApart_values (h : SkeletonName.IsJoined n) (kind : SkeletonKind) (seconds : Int)
    (g : TemplateGap) : bracesApart ((ofName kind n seconds).values.get g).toList = true := by
  refine bracesApart_of_not_mem fun hbrace => ?_
  cases isPlainChar_of_mem_values h kind seconds g hbrace

/-! ### Texts -/

/-- **Templates are filled at once.**  The type of a skeleton is a capital letter with letters and
digits after it, and in lower case the name without underscores, which is the table of a model.  The
stem of the file is the name after the stamp.  None of type, table and stem has a delimiter or a
blank, whatever the user gives as a name.  The text is the template with every mark replaced in one
pass, which is every gap filled at once; passes for the gaps one by one come to the same in every
order; and no mark is left, nor two opening braces in a row. -/
theorem template_is_filled_at_once (h : render kind name seconds = .ok s) :
    ∃ n, SkeletonName.normalize? name.toList = some n ∧
      (∃ c cs, s.typeName.toList = c :: cs ∧ c.isUpper = true ∧ ∀ d ∈ cs, d.isAlphanum = true) ∧
      s.typeName.toList.flatMap lowercase = n.filter (· ≠ '_') ∧
      (kind = .model → s.table.toList = n.filter (· ≠ '_')) ∧
      s.fileStem = stamp kind seconds ++ String.ofList n ∧
      (∀ text ∈ [s.typeName, s.table, s.fileStem], ∀ c ∈ text.toList,
        c ∉ delimiters.toList ∧ isBlank c = false) ∧
      (s.contents.toList =
          fillMarks s.values [.typeName, .table, .fileStem] (templateText kind.template) ∧
        s.contents = fillTemplate s.values kind.template) ∧
      (∀ order, (∀ g, g ∈ order) →
        fillInTurn s.values order (templateText kind.template) = s.contents.toList) ∧
      (∀ g : TemplateGap, ¬ g.mark.toList <:+: s.contents.toList) ∧
      ¬ ['\x7b', '\x7b'] <:+: s.contents.toList := by
  obtain ⟨n, hn, rfl⟩ := render_eq_ok_iff.1 h
  have hnormal := SkeletonName.isNormal_of_normalize? hn
  have hjoined := hnormal.isJoined
  have hvalues := bracesApart_values hjoined kind seconds
  have hplain := kind.isPlainTemplate_template
  have hall : ∀ g, g ∈ [TemplateGap.typeName, .table, .fileStem] := by
    intro g
    cases g <;> decide
  have htype : (ofName kind n seconds).typeName.toList = SkeletonName.camel n :=
    String.toList_ofList
  have hturn : (ofName kind n seconds).contents.toList =
      (fillTemplate (ofName kind n seconds).values kind.template).toList := by
    rw [← fillInTurn_eq_fillTemplate hvalues hall hplain]
    exact String.toList_ofList
  refine ⟨n, hn, ?_, ?_, ?_, stem_eq kind n seconds, ?_, ⟨?_, String.toList_inj.1 hturn⟩,
    ?_, ?_, ?_⟩
  · rw [htype]
    exact SkeletonName.exists_camel_eq hnormal
  · rw [htype, SkeletonName.flatMap_lowercase_camel hjoined]
  · rintro rfl
    exact String.toList_ofList.trans (SkeletonName.flatMap_lowercase_camel hjoined)
  · intro text htext c hc
    refine not_delimiter_of_isPlainChar ?_
    simp only [List.mem_cons, List.not_mem_nil, or_false] at htext
    rcases htext with rfl | rfl | rfl
    · exact isPlainChar_of_mem_values hjoined kind seconds .typeName hc
    · exact isPlainChar_of_mem_values hjoined kind seconds .table hc
    · exact isPlainChar_of_mem_values hjoined kind seconds .fileStem hc
  · rw [hturn, fillMarks_eq_fillTemplate hall hplain]
  · intro order horder
    rw [hturn, fillInTurn_eq_fillTemplate hvalues horder hplain]
  · rw [hturn]
    exact not_mark_infix (bracesApart_fillTemplate hvalues hplain)
  · rw [hturn]
    exact not_infix_of_bracesApart (bracesApart_fillTemplate hvalues hplain)

/-- A name that is written like marks leaves none, and the gaps are filled in any order. -/
theorem name_like_marks_is_filled :
    let s := ofName .seeder "table_name_k2".toList 0
    render .seeder "\x7b\x7btable\x7d\x7d/\x7b\x7bname\x7d\x7d \u212A2" 0 = .ok s ∧
    s.typeName.toList.flatMap lowercase = "tablenamek2".toList ∧
    fillInTurn s.values [.fileStem, .table, .typeName]
      (templateText SkeletonKind.seeder.template) = s.contents.toList ∧
    ¬ ['\x7b', '\x7b'] <:+: s.contents.toList := by
  intro s
  have hname : SkeletonName.normalize?
      "\x7b\x7btable\x7d\x7d/\x7b\x7bname\x7d\x7d \u212A2".toList =
        some "table_name_k2".toList := by
    decide +kernel
  have hrender : render .seeder "\x7b\x7btable\x7d\x7d/\x7b\x7bname\x7d\x7d \u212A2" 0 =
      .ok s := render_eq_ok_iff.2 ⟨_, hname, rfl⟩
  obtain ⟨n, hn, -, hlower, -, -, -, -, horder, -, hbraces⟩ := template_is_filled_at_once hrender
  obtain rfl := Option.some.inj (hname.symm.trans hn)
  refine ⟨hrender, hlower.trans (by decide +kernel), horder _ fun g => ?_, hbraces⟩
  cases g <;> decide

end Skeleton

end Schemata
