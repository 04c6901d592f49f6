import Schemata.Skeleton.Template

/-!
# Marks in templates

A mark starts with two opening braces.  In the texts of a template, and in a value without braces,
each opening brace has some other character after it, so no mark comes about but where a gap is,
whatever is put in.  A pass over the text therefore replaces the marks of its gaps and nothing else,
and passes for all gaps come to the same in any order: every gap is filled, as if all at once.

* `bracesApart` — no opening brace is last or before another one;
* `TemplatePiece.put` — a part after a pass;
* `fillMarks_templateText`, `fillInTurn_templateText` — one pass, and passes in a row;
* `fillMarks_eq_fillTemplate`, `fillInTurn_eq_fillTemplate` — passes that fill every gap;
* `not_infix_of_bracesApart` — no mark is left.
-/

namespace Schemata

variable {v : TemplateValues} {gaps order : List TemplateGap} {g : TemplateGap} {c : Char}
  {cs text : List Char} {template : List TemplatePiece}

/-! ### Opening braces -/

/-- Whether each opening brace has a character after it that is no opening brace. -/
def bracesApart : List Char → Bool
  | [] => true
  | c :: cs => (c != '\x7b' || cs.head?.any (· != '\x7b')) && bracesApart cs

theorem bracesApart_of_not_mem (h : '\x7b' ∉ cs) : bracesApart cs = true := by
  induction cs with
  | nil => rfl
  | cons c cs ih =>
    rw [List.mem_cons, not_or] at h
    have hc : (c != '\x7b') = true := by simpa using Ne.symm h.1
    rw [bracesApart, hc, ih h.2]
    rfl

/-- The character after an opening brace is not lost when more text follows. -/
theorem bracesApart_append (h : bracesApart cs = true) (htext : bracesApart text = true) :
    bracesApart (cs ++ text) = true := by
  induction cs with
  | nil => exact htext
  | cons c cs ih =>
    rw [bracesApart, Bool.and_eq_true] at h
    rw [List.cons_append, bracesApart, ih h.2, Bool.and_true]
    cases cs with
    | nil =>
      have hc : (c != '\x7b') = true := by simpa using h.1
      rw [hc, Bool.true_or]
    | cons d cs => exact h.1

theorem not_infix_of_bracesApart (h : bracesApart cs = true) : ¬ ['\x7b', '\x7b'] <:+: cs := by
  induction cs with
  | nil => simp
  | cons c cs ih =>
    rw [bracesApart, Bool.and_eq_true] at h
    rw [List.infix_cons_iff, not_or]
    refine ⟨?_, ih h.2⟩
    rintro ⟨rest, heq⟩
    obtain ⟨rfl, rfl⟩ := List.cons.inj heq
    exact absurd h.1 (by simp)

/-! ### Marks -/

/-- A mark has two opening braces, and none after them. -/
theorem exists_mark_eq (g : TemplateGap) :
    ∃ cs, g.mark.toList = '\x7b' :: '\x7b' :: cs ∧ bracesApart ('\x7b' :: cs) = true := by
  cases g with
  | typeName => exact ⟨"struct\x7d\x7d".toList, by simp [TemplateGap.mark], by decide⟩
  | table => exact ⟨"table\x7d\x7d".toList, by simp [TemplateGap.mark], by decide⟩
  | fileStem => exact ⟨"name\x7d\x7d".toList, by simp [TemplateGap.mark], by decide⟩

/-- No mark is the start of another one. -/
theorem isPrefixOf_mark_iff {g' : TemplateGap} (rest : List Char) :
    g'.mark.toList.isPrefixOf (g.mark.toList ++ rest) = true ↔ g' = g := by
  cases g' <;> cases g <;> simp [TemplateGap.mark]

/-- No mark starts in a text with braces apart. -/
theorem isPrefixOf_of_bracesApart (h : bracesApart (c :: cs) = true) (g : TemplateGap)
    (rest : List Char) : g.mark.toList.isPrefixOf (c :: (cs ++ rest)) = false := by
  obtain ⟨ds, hmark, -⟩ := exists_mark_eq g
  rw [bracesApart, Bool.and_eq_true] at h
  rw [hmark, ← Bool.not_eq_true, List.isPrefixOf_iff_prefix]
  rintro ⟨rest', heq⟩
  obtain ⟨rfl, htail⟩ := List.cons.inj heq
  cases cs with
  | nil => exact absurd h.1 (by simp)
  | cons d cs =>
    obtain ⟨rfl, -⟩ := List.cons.inj htail
    exact absurd h.1 (by simp)

/-! ### One pass over a text -/

/-- A pass goes on where no mark starts. -/
theorem fillMarks_cons_of_bracesApart (h : bracesApart (c :: cs) = true) (rest : List Char) :
    fillMarks v gaps (c :: (cs ++ rest)) = c :: fillMarks v gaps (cs ++ rest) := by
  have hnone : gaps.find? (fun g => g.mark.toList.isPrefixOf (c :: (cs ++ rest))) = none :=
    List.find?_eq_none.2 fun g _ => by simp [isPrefixOf_of_bracesApart h g rest]
  rw [fillMarks, hnone]

/-- A pass leaves a text with braces apart as it is. -/
theorem fillMarks_append (h : bracesApart text = true) (rest : List Char) :
    fillMarks v gaps (text ++ rest) = text ++ fillMarks v gaps rest := by
  induction text with
  | nil => rfl
  | cons c cs ih =>
    rw [List.cons_append, fillMarks_cons_of_bracesApart h, List.cons_append]
    rw [bracesApart, Bool.and_eq_true] at h
    rw [ih h.2]

/-- A mark of the pass gives way to the value of its gap. -/
theorem fillMarks_mark_of_mem (h : g ∈ gaps) (rest : List Char) :
    fillMarks v gaps (g.mark.toList ++ rest) = (v.get g).toList ++ fillMarks v gaps rest := by
  have hsome : (gaps.find? fun g' => g'.mark.toList.isPrefixOf (g.mark.toList ++ rest)).isSome :=
    List.find?_isSome.2 ⟨g, h, (isPrefixOf_mark_iff rest).2 rfl⟩
  obtain ⟨g', hfind⟩ := Option.isSome_iff_exists.1 hsome
  have hstart := List.find?_some hfind
  obtain rfl : g' = g := (isPrefixOf_mark_iff rest).1 hstart
  obtain ⟨ds, hmark, -⟩ := exists_mark_eq g'
  have hrest : ('\x7b' :: ds ++ rest).drop (g'.mark.toList.length - 1) = rest := by
    rw [hmark, List.length_cons, Nat.add_sub_cancel, List.drop_left]
  rw [hmark, List.cons_append] at hfind ⊢
  rw [fillMarks, hfind]
  simp only [hrest]

/-- A mark of another pass is left. -/
theorem fillMarks_mark_of_not_mem (h : g ∉ gaps) (rest : List Char) :
    fillMarks v gaps (g.mark.toList ++ rest) = g.mark.toList ++ fillMarks v gaps rest := by
  have hnone : gaps.find? (fun g' => g'.mark.toList.isPrefixOf (g.mark.toList ++ rest)) = none :=
    List.find?_eq_none.2 fun g' hg' hmark => by
      obtain rfl := (isPrefixOf_mark_iff rest).1 hmark
      exact h hg'
  obtain ⟨ds, hmark, hds⟩ := exists_mark_eq g
  rw [hmark, List.cons_append] at hnone ⊢
  rw [fillMarks, hnone]
  exact congrArg ('\x7b' :: ·) (fillMarks_append hds rest)

/-! ### Passes over a template -/

/-- The part after a pass for the given gaps. -/
def TemplatePiece.put (v : TemplateValues) (gaps : List TemplateGap) :
    TemplatePiece → TemplatePiece
  | .text s => .text s
  | .gap g => if g ∈ gaps then .text (v.get g) else .gap g

/-- Whether braces are apart in the texts of the template. -/
def isPlainTemplate (template : List TemplatePiece) : Bool :=
  template.all fun
    | .text s => bracesApart s.toList
    | .gap _ => true

theorem SkeletonKind.isPlainTemplate_template (kind : SkeletonKind) :
    isPlainTemplate kind.template = true := by
  cases kind <;> decide +kernel

/-- One pass over a template fills its gaps and leaves the others. -/
theorem fillMarks_templateText (h : isPlainTemplate template = true) :
    fillMarks v gaps (templateText template) = templateText (template.map (·.put v gaps)) := by
  induction template with
  | nil => simp [templateText, fillMarks]
  | cons p template ih =>
    rw [isPlainTemplate, List.all_cons, Bool.and_eq_true] at h
    have hrest := ih h.2
    unfold templateText at hrest ⊢
    rw [List.map_cons, List.flatMap_cons, List.flatMap_cons, ← hrest]
    cases p with
    | text s => exact fillMarks_append h.1 _
    | gap g =>
      by_cases hg : g ∈ gaps
      · rw [TemplatePiece.put, if_pos hg]
        exact fillMarks_mark_of_mem hg _
      · rw [TemplatePiece.put, if_neg hg]
        exact fillMarks_mark_of_not_mem hg _

/-- Values in which braces are apart are texts like those of the template. -/
theorem isPlainTemplate_put (hv : ∀ g, bracesApart (v.get g).toList = true)
    (h : isPlainTemplate template = true) :
    isPlainTemplate (template.map (·.put v gaps)) = true := by
  rw [isPlainTemplate, List.all_map, List.all_eq_true]
  intro p hp
  rw [isPlainTemplate, List.all_eq_true] at h
  cases p with
  | text s => exact h _ hp
  | gap g =>
    by_cases hg : g ∈ gaps
    · simp [TemplatePiece.put, hg, hv g]
    · simp [TemplatePiece.put, hg]

/-- Passes in a row fill the gaps of all of them. -/
theorem fillInTurn_templateText (hv : ∀ g, bracesApart (v.get g).toList = true)
    (h : isPlainTemplate template = true) :
    fillInTurn v order (templateText template) = templateText (template.map (·.put v order)) := by
  induction order generalizing template with
  | nil =>
    have hnone (p : TemplatePiece) : p.put v [] = p := by cases p <;> rfl
    rw [List.map_congr_left fun p _ => hnone p, List.map_id']
    rfl
  | cons g order ih =>
    have hboth (p : TemplatePiece) : (p.put v [g]).put v order = p.put v (g :: order) := by
      cases p with
      | text s => rfl
      | gap g' => by_cases hg : g' = g <;> simp [TemplatePiece.put, hg]
    have hstep : fillInTurn v (g :: order) (templateText template) =
        fillInTurn v order (fillMarks v [g] (templateText template)) := rfl
    rw [hstep, fillMarks_templateText h, ih (isPlainTemplate_put hv h), List.map_map]
    exact congrArg templateText (List.map_congr_left fun p _ => hboth p)

/-! ### All gaps -/

/-- With every gap filled, the text of the template is what filling at once gives. -/
theorem templateText_put (hgaps : ∀ g, g ∈ gaps) (template : List TemplatePiece) :
    templateText (template.map (·.put v gaps)) = (fillTemplate v template).toList := by
  have hfill (p : TemplatePiece) : (p.put v gaps).written = p.fill v := by
    cases p with
    | text s => rfl
    | gap g => rw [TemplatePiece.put, if_pos (hgaps g)]; rfl
  rw [templateText, fillTemplate, String.toList_join, List.flatMap_map, List.flatMap_map]
  simp only [hfill]

/-- One pass for every gap fills the template. -/
theorem fillMarks_eq_fillTemplate (hgaps : ∀ g, g ∈ gaps)
    (h : isPlainTemplate template = true) :
    fillMarks v gaps (templateText template) = (fillTemplate v template).toList :=
  (fillMarks_templateText h).trans (templateText_put hgaps template)

/-- Passes for all gaps fill the template in every order. -/
theorem fillInTurn_eq_fillTemplate (hv : ∀ g, bracesApart (v.get g).toList = true)
    (hgaps : ∀ g, g ∈ order) (h : isPlainTemplate template = true) :
    fillInTurn v order (templateText template) = (fillTemplate v template).toList :=
  (fillInTurn_templateText hv h).trans (templateText_put hgaps template)

/-- In the filled template braces are apart. -/
theorem bracesApart_fillTemplate (hv : ∀ g, bracesApart (v.get g).toList = true)
    (h : isPlainTemplate template = true) :
    bracesApart (fillTemplate v template).toList = true := by
  rw [fillTemplate, String.toList_join, List.flatMap_map]
  induction template with
  | nil => rfl
  | cons p template ih =>
    rw [isPlainTemplate, List.all_cons, Bool.and_eq_true] at h
    rw [List.flatMap_cons]
    refine bracesApart_append ?_ (ih h.2)
    cases p with
    | text s => exact h.1
    | gap g => exact hv g

/-- A mark has two opening braces in a row. -/
theorem not_mark_infix (h : bracesApart cs = true) (g : TemplateGap) :
    ¬ g.mark.toList <:+: cs := by
  obtain ⟨ds, hmark, -⟩ := exists_mark_eq g
  rw [hmark]
  exact fun hg => not_infix_of_bracesApart h
    (((List.prefix_append ['\x7b', '\x7b'] ds).isInfix).trans hg)

end Schemata
