import Schemata.Text.Words

/-!
# Names of skeletons

The name that a user gives is brought into one form: small letters and digits in words that
single underscores join, starting with a letter.

* `SkeletonName.snake` — the words of a text in small letters, joined by underscores;
* `SkeletonName.collapse` — every run of underscores made one;
* `SkeletonName.normalize?` — the normal form of a name, unless nothing usable is left;
* `SkeletonName.camel` — the words of a name, each with a capital letter, as one;
* `SkeletonName.migrationTable`, `SkeletonName.seederTable` — the table that a name speaks of.
-/

namespace Schemata

namespace SkeletonName

/-! ### Words joined by underscores -/

/-- The words in small letters, joined by underscores. -/
def snake (cs : List Char) : List Char :=
  List.intercalate ['_'] ((words cs).map fun w => w.flatMap lowercase)

/-- An ASCII letter or digit as itself, and any other character as an underscore. -/
def keepUsable (c : Char) : Char :=
  if c.isAlphanum then c else '_'

/-! ### Runs of underscores -/

/-- Whether two underscores follow each other. -/
def hasPair : List Char → Bool
  | '_' :: '_' :: _ => true
  | _ :: cs => hasPair cs
  | [] => false

/-- Each pair of underscores made one, from left to right. -/
def mergePairs : List Char → List Char
  | '_' :: '_' :: cs => '_' :: mergePairs cs
  | c :: cs => c :: mergePairs cs
  | [] => []

theorem length_mergePairs_le (cs : List Char) : (mergePairs cs).length ≤ cs.length := by
  fun_induction mergePairs cs with
  | case1 cs ih => simp only [List.length_cons]; omega
  | case2 c cs _ ih => simpa using ih
  | case3 => simp

theorem length_mergePairs_lt {cs : List Char} (h : hasPair cs = true) :
    (mergePairs cs).length < cs.length := by
  fun_induction mergePairs cs with
  | case1 cs ih =>
    have := length_mergePairs_le cs
    simp only [List.length_cons]
    omega
  | case2 c cs hne ih =>
    rw [hasPair.eq_2 _ _ fun r hc hcs => hne r hc hcs] at h
    have := ih h
    simp only [List.length_cons]
    omega
  | case3 => simp [hasPair] at h

/-- Pairs of underscores merged until there is none. -/
def collapse (cs : List Char) : List Char :=
  if hasPair cs then collapse (mergePairs cs) else cs
termination_by cs.length
decreasing_by exact length_mergePairs_lt ‹_›

/-! ### The normal form -/

/-- Whether the character is an underscore. -/
def isUnderscore (c : Char) : Bool :=
  c == '_'

/-- The characters without the underscores at either end. -/
def trimUnderscores (cs : List Char) : List Char :=
  ((cs.dropWhile isUnderscore).reverse.dropWhile isUnderscore).reverse

/-- The normal form of a name.  There is none if no letter or digit is left, or if a digit is the
first. -/
def normalize? (name : List Char) : Option (List Char) :=
  match trimUnderscores (collapse ((snake name).map keepUsable)) with
  | [] => none
  | c :: cs => if c.isDigit then none else some (c :: cs)

/-! ### Words with capitals -/

/-- A word with a capital letter first. -/
def capitalize : List Char → List Char
  | [] => []
  | c :: cs => c.toUpper :: cs.flatMap lowercase

/-- The words of a name in ASCII, each with a capital letter first, as one. -/
def camel (cs : List Char) : List Char :=
  (words cs).flatMap capitalize

/-! ### Tables -/

/-- The rest of the text after `start`, or the text itself if it starts otherwise. -/
def dropStart (start cs : List Char) : List Char :=
  if start.isPrefixOf cs then cs.drop start.length else cs

/-- The text before `finish`, or the text itself if it ends otherwise. -/
def dropFinish (finish cs : List Char) : List Char :=
  if finish.isSuffixOf cs then cs.take (cs.length - finish.length) else cs

/-- The table of a migration: `create_users_table` is about `users`. -/
def migrationTable (name : List Char) : List Char :=
  match dropFinish "_table".toList (dropStart "create_".toList name) with
  | [] => name
  | table => table

/-- The table of a seeder: `users_seeder` is about `users`. -/
def seederTable (name : List Char) : List Char :=
  match dropFinish "_seeder".toList name with
  | [] => name
  | table => table

end SkeletonName

end Schemata
