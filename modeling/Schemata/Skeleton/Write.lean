import Schemata.Event
import Schemata.FileTree
import Schemata.Skeleton.Basic

/-!
# Writing skeletons

A skeleton is written into a directory, which is made if it is missing.  No entry of the file
tree is ever replaced.

* `Skeleton.write` — writes a skeleton;
* `Skeleton.generate` — writes the skeleton for a name, if there is one.
-/

namespace Schemata

/-- The path that was written to, the tree afterwards, and the events. -/
structure Written where
  /-- The path, or why nothing was written. -/
  result : Except TaskError String
  /-- The tree afterwards. -/
  tree : FileTree
  /-- The events in order. -/
  events : List Event := []

namespace Skeleton

/-- Writes the skeleton into a directory. -/
def write (s : Skeleton) (dir : String) (t : FileTree) : Written :=
  let path := s.pathIn dir
  match t.makeDirectories dir with
  | (t, false) => { result := .error .io, tree := t }
  | (t, true) =>
    match t.create path s.contents with
    | .error .occupied => { result := .error (.fileExists path), tree := t }
    | .error .nowhere => { result := .error .io, tree := t }
    | .ok t => { result := .ok path, tree := t, events := [.generated s.kind path] }

/-- Writes the skeleton of a kind for a name, at a time in seconds, into a directory. -/
def generate (kind : SkeletonKind) (name : String) (seconds : Int) (dir : String)
    (t : FileTree) : Written :=
  match render kind name seconds with
  | .error e => { result := .error e, tree := t }
  | .ok s => s.write dir t

end Skeleton

end Schemata
