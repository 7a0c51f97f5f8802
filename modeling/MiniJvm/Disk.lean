import MiniJvm.Path

/-!
Files as the machine sees them: a path has a content or it has none, and a file can be made there or not.
-/

namespace MiniJvm

structure Disk where
  read? : String → Option (Array UInt8)
  /-- Whether a file can be made at a path, in place of what the path held. -/
  creatable : String → Bool

namespace Disk

def empty : Disk := ⟨fun _ => none, fun _ => true⟩

def insert (disk : Disk) (path : String) (content : Array UInt8) : Disk :=
  { disk with read? := fun other => if other = path then some content else disk.read? other }

/-- The names that lead from the working directory to a file or directory below it. -/
abbrev Location := List String

/-- Where one component of a path leads, none out of the working directory. -/
def Location.follow? (here : Location) (part : String) : Option Location :=
  if Path.isIdle part then some here
  else if part = ".." then
    if here.isEmpty then none else some here.dropLast
  else some (here ++ [part])

def Location.route? (here : Location) : List String → Option (List Location × Location)
  | [] => some ([], here)
  | part :: parts => do
    let next ← here.follow? part
    let (passed, last) ← route? next parts
    return (here :: passed, last)

/-- What a working directory holds, with itself among the directories. Of two files at one location the
first counts. -/
structure Tree where
  files : List (Location × Array UInt8)
  directories : List Location

namespace Tree

def empty : Tree := ⟨[], [[]]⟩

/-- The tree with one more file and every directory that its path passes, also one that `..` leaves
again. -/
def place (tree : Tree) (path : String) (content : Array UInt8) : Tree :=
  match Location.route? [] (Path.components path) with
  | none => tree
  | some (passed, last) =>
    { files := (last, content) :: tree.files, directories := passed ++ tree.directories }

/-- What a path denotes, whether or not a file is there. Every location on the way has to be a directory;
absolute paths and those of `Path.sizeLimit` bytes or more denote nothing. -/
def locate? (tree : Tree) (path : String) : Option Location :=
  if Path.isAbsolute path || Path.sizeLimit ≤ path.utf8ByteSize then none
  else
    match Location.route? [] (Path.components path) with
    | none => none
    | some (passed, last) => if passed.all tree.directories.contains then some last else none

def read? (tree : Tree) (path : String) : Option (Array UInt8) :=
  (tree.locate? path).bind fun location => tree.files.lookup location

def creatable (tree : Tree) (path : String) : Bool :=
  (tree.locate? path).any fun location => !tree.directories.contains location

end Tree

/-- The disk of a working directory that holds some files and nothing else. A later file replaces an
earlier one at the same location. -/
def ofFiles (files : List (String × Array UInt8)) : Disk :=
  let tree := files.foldl (fun tree (path, content) => tree.place path content) Tree.empty
  ⟨tree.read?, tree.creatable⟩

end Disk

end MiniJvm
