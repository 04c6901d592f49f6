import Schemata.Proofs.Skeleton.Camel

/-!
# Names of generated types

The template of a skeleton brings in names, and its language has the name `Self` for the type at
hand.  A skeleton whose type has one of these names does not declare it.  None of them has a digit,
so each is the type of one name in normal form, and these few names are the ones that clash.

* `importedNames` — the names that the `use` lines of a text bring in;
* `SkeletonKind.takenNames` — the names that a generated type should not have;
* `SkeletonKind.clashes` — the names in normal form that make such a type;
* `Skeleton.type_is_free_iff` — the types that can be declared.
-/

namespace Schemata

/-! ### Names that are taken -/

/-- The names that the `use` lines of a text bring in, which come after the last colon of each. -/
def importedNames (text : List Char) : List String :=
  ((text.splitOn '\n').filter fun line => "use ".toList.isPrefixOf line).flatMap fun line =>
    let names := (line.reverse.takeWhile (· ≠ ':')).reverse.splitOnP fun c => !Identifier.isTail c
    (names.filter (· ≠ [])).map String.ofList

namespace SkeletonKind

/-- The names that mean something in the template already. -/
def takenNames (kind : SkeletonKind) : List String :=
  "Self" :: importedNames (templateText kind.template)

/-- The names in normal form of which a type is made that is taken. -/
def clashes : SkeletonKind → List String
  | .migration => ["self", "result", "table", "migration"]
  | .model => ["self"]
  | .seeder => ["self", "dialect", "seeder", "statement_sink"]

theorem takenNames_eq (kind : SkeletonKind) :
    kind.takenNames = match kind with
      | .migration => ["Self", "Result", "Table", "Migration"]
      | .model => ["Self"]
      | .seeder => ["Self", "Dialect", "Seeder", "StatementSink"] := by
  cases kind <;> decide +kernel

/-- A taken name has no digits, and is a type itself. -/
theorem camel_of_mem_takenNames {kind : SkeletonKind} {type : String}
    (h : type ∈ kind.takenNames) :
    (∀ c ∈ type.toList, c.isDigit = false) ∧
      SkeletonName.camel (SkeletonName.markCapitals type.toList).tail = type.toList := by
  have hall : kind.takenNames.all (fun type =>
      !type.toList.any Char.isDigit &&
        SkeletonName.camel (SkeletonName.markCapitals type.toList).tail == type.toList) = true := by
    rw [takenNames_eq]
    cases kind <;> decide +kernel
  simpa using List.all_eq_true.1 hall type h

/-- The names that clash are read off the capital letters of the taken ones. -/
theorem clashes_eq (kind : SkeletonKind) :
    kind.clashes = kind.takenNames.map fun type =>
      String.ofList (SkeletonName.markCapitals type.toList).tail := by
  rw [takenNames_eq]
  cases kind <;> decide +kernel

/-- A type is taken exactly if its name clashes. -/
theorem camel_mem_takenNames_iff {n : List Char} (h : SkeletonName.IsJoined n)
    (kind : SkeletonKind) :
    String.ofList (SkeletonName.camel n) ∈ kind.takenNames ↔ String.ofList n ∈ kind.clashes := by
  rw [clashes_eq, List.mem_map]
  constructor
  · intro htype
    obtain ⟨hdigit, hcamel⟩ := camel_of_mem_takenNames htype
    rw [String.toList_ofList] at hdigit hcamel
    refine ⟨_, htype, ?_⟩
    rw [String.toList_ofList, ← (SkeletonName.camel_eq_iff h hdigit hcamel).1 rfl]
  · rintro ⟨type, htype, heq⟩
    obtain ⟨-, hcamel⟩ := camel_of_mem_takenNames htype
    rwa [← String.ofList_injective heq, hcamel, String.ofList_toList]

end SkeletonKind

namespace Skeleton

variable {kind : SkeletonKind} {name : String} {seconds : Int} {s : Skeleton}

/-- **Which types can be declared.**  The type of a skeleton is neither `Self` nor a name that the
template brings in, exactly if the name in normal form is none of the few that clash. -/
theorem type_is_free_iff (h : render kind name seconds = .ok s) :
    ∃ n, SkeletonName.normalize? name.toList = some n ∧
      (s.typeName ≠ "Self" ∧ s.typeName ∉ importedNames (templateText kind.template) ↔
        String.ofList n ∉ kind.clashes) := by
  obtain ⟨n, hn, rfl⟩ := render_eq_ok_iff.1 h
  have hjoined := (SkeletonName.isNormal_of_normalize? hn).isJoined
  have htaken := SkeletonKind.camel_mem_takenNames_iff hjoined kind
  refine ⟨n, hn, ?_⟩
  rw [← htaken, SkeletonKind.takenNames, List.mem_cons, not_or]
  rfl

/-- One more letter is enough for a type that is free. -/
theorem tables_type_is_free :
    render .migration "Tables" 0 = .ok (ofName .migration "tables".toList 0) ∧
    (ofName .migration "tables".toList 0).typeName ≠ "Self" ∧
    (ofName .migration "tables".toList 0).typeName ∉
      importedNames (templateText SkeletonKind.migration.template) := by
  have hname : SkeletonName.normalize? "Tables".toList = some "tables".toList := by
    decide +kernel
  have hrender : render .migration "Tables" 0 = .ok (ofName .migration "tables".toList 0) :=
    render_eq_ok_iff.2 ⟨_, hname, rfl⟩
  obtain ⟨n, hn, hfree⟩ := type_is_free_iff hrender
  obtain rfl := Option.some.inj (hname.symm.trans hn)
  exact ⟨hrender, hfree.2 (by decide +kernel)⟩

/-- A seeder called seeder has the name that its template brings in to implement it. -/
theorem seeder_type_is_taken :
    render .seeder "seeder" 1700000000 = .ok (ofName .seeder "seeder".toList 1700000000) ∧
    (ofName .seeder "seeder".toList 1700000000).typeName = "Seeder" ∧
    "Seeder" ∈ importedNames (templateText SkeletonKind.seeder.template) :=
  ⟨render_eq_ok_iff.2 ⟨_, by decide +kernel, rfl⟩, by decide +kernel, by decide +kernel⟩

end Skeleton

end Schemata
