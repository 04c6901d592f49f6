/-!
# File trees

The directories and text files that a path can lead to.

* `FileTree.at?` — what is at a place of the tree;
* `FileTree.find` — where a path leads: to an entry, to a free place in a directory, or nowhere;
* `FileTree.makeDirectories` — makes a directory and the ones above it that are missing;
* `FileTree.create` — makes a file where nothing is.

Nothing that is in a tree is ever changed or removed.  A path that starts with a slash leads
from the root, and any other one from the current directory; `.` stays, `..` goes up, and
repeated slashes count as one.
-/

namespace Schemata

/-- The names that lead from the root to a place. -/
abbrev Place := List String

/-- What is at a place. -/
inductive Entry where
  /-- A directory. -/
  | directory
  /-- A file with its text. -/
  | file (contents : String)
deriving DecidableEq, Repr

/-- Directories and files. -/
structure FileTree where
  /-- The current directory. -/
  current : Place
  /-- The entries apart from the root. -/
  entries : List (Place × Entry) := []
deriving DecidableEq, Repr

namespace FileTree

/-! ### Entries -/

/-- What is at the place. -/
def at? (t : FileTree) (p : Place) : Option Entry :=
  if p = [] then some .directory else t.entries.lookup p

/-- The tree with one more entry. -/
def add (t : FileTree) (p : Place) (e : Entry) : FileTree :=
  { t with entries := t.entries ++ [(p, e)] }

/-- An entry that is added to a free place is found there, and all else stays. -/
theorem at?_add {t : FileTree} {p : Place} (e : Entry) (q : Place) (h : t.at? p = none) :
    (t.add p e).at? q = if q = p then some e else t.at? q := by
  unfold at? at h
  split at h
  next => simp at h
  next hp =>
    by_cases hq : q = p
    · subst hq
      simp [at?, add, hp, h, List.lookup_append]
    · simp only [at?, add, List.lookup_append, hq, if_false]
      have : (q == p) = false := by simpa using hq
      simp [List.lookup_cons, this]

/-- The tree that has nothing but the current directory and those above it. -/
def bare (current : Place) : FileTree :=
  { current
    entries := (List.range current.length).map fun n => (current.take (n + 1), .directory) }

/-- The entries below the current directory, with the names that lead to them from there. -/
def below (t : FileTree) : List (Place × Entry) :=
  t.entries.filterMap fun (p, e) =>
    if t.current.isPrefixOf p ∧ t.current ≠ p then some (p.drop t.current.length, e) else none

/-! ### Paths -/

/-- The longest name of an entry, in bytes. -/
def maxNameLength : Nat := 255

/-- The longest path, in bytes. -/
def maxPathLength : Nat := 4095

/-- The texts between the slashes. -/
def splitSlashes : List Char → List (List Char)
  | [] => [[]]
  | c :: cs =>
    if c = '/' then [] :: splitSlashes cs
    else
      match splitSlashes cs with
      | [] => [[c]]
      | p :: ps => (c :: p) :: ps

/-- The parts of a path between its slashes. -/
def parts (path : String) : List String :=
  (splitSlashes path.toList).map String.ofList

/-- Whether a path may be looked up at all. -/
def isUsable (path : String) : Bool :=
  !path.toList.contains '\x00' && decide (path.utf8ByteSize ≤ maxPathLength)

/-- The place from which a path leads. -/
def start (t : FileTree) (path : String) : Place :=
  if path.toList.head? = some '/' then [] else t.current

/-! ### Where a path leads -/

/-- Where a path leads. -/
inductive Found where
  /-- To an entry. -/
  | entry (p : Place) (e : Entry)
  /-- To a place in a directory at which there is nothing. -/
  | free (p : Place)
  /-- Nowhere: a directory on the way is missing or is a file, or a name is too long. -/
  | nowhere
deriving DecidableEq, Repr

/-- Where the parts of a path lead from a directory.  The last part may be free even if slashes
follow it. -/
def walk (t : FileTree) (here : Place) : List String → Found
  | [] => .entry here .directory
  | name :: rest =>
    if name = "" ∨ name = "." then t.walk here rest
    else if name = ".." then t.walk here.dropLast rest
    else if name.utf8ByteSize > maxNameLength then .nowhere
    else
      match t.at? (here ++ [name]) with
      | some .directory => t.walk (here ++ [name]) rest
      | some (.file contents) =>
        if rest = [] then .entry (here ++ [name]) (.file contents) else .nowhere
      | none => if rest.all (· == "") then .free (here ++ [name]) else .nowhere

/-- Where a path leads. -/
def find (t : FileTree) (path : String) : Found :=
  if isUsable path then t.walk (t.start path) (parts path) else .nowhere

/-! ### Making directories -/

/-- The tree with a directory where the parts lead, unless something is in the way. -/
def makeDirectory (t : FileTree) (here : Place) (names : List String) : Option FileTree :=
  match t.walk here names with
  | .free p => some (t.add p .directory)
  | .entry _ .directory => some t
  | _ => none

/-- Makes the directories that the names lead to one after the other, after those in `done`.  What
was made before something is in the way stays. -/
def makeEach (t : FileTree) (here : Place) (done : List String) :
    List String → FileTree × Bool
  | [] => (t, true)
  | name :: rest =>
    match t.makeDirectory here (done ++ [name]) with
    | none => (t, false)
    | some t' => t'.makeEach here (done ++ [name]) rest

/-- Makes the directory at the path and those above it, and tells whether it is there. -/
def makeDirectories (t : FileTree) (path : String) : FileTree × Bool :=
  if path = "" then (t, true)
  else if !isUsable path then (t, false)
  else
    let here := t.start path
    let names := (parts path).filter fun name => name ≠ "" ∧ name ≠ "."
    match t.makeEach here [] names.dropLast with
    | (t, false) => (t, false)
    | (t, true) =>
      match t.makeDirectory here (parts path) with
      | none => (t, false)
      | some t => (t, true)

/-! ### Making files -/

/-- Why a file could not be made. -/
inductive CreateError where
  /-- There is an entry at the path. -/
  | occupied
  /-- The path leads nowhere. -/
  | nowhere
deriving DecidableEq, Repr

/-- Makes a file where nothing is. -/
def create (t : FileTree) (path contents : String) : Except CreateError FileTree :=
  match t.find path with
  | .entry _ _ => .error .occupied
  | .nowhere => .error .nowhere
  | .free p => .ok (t.add p (.file contents))

end FileTree

end Schemata
