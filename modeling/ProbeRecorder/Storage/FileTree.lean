/-!
# `ProbeRecorder.Storage.FileTree` — folders and files around a log

A path is a text that leads somewhere, step by step, from the folder in which the command runs. What it leads
to depends on the folders and files that are there.

## Contents
- **Paths.** `Path`, where a text leads; `Path.join`, `Path.parts`.
- **Trees.** `FileNode`, `FileTree`, `FileTree.node?`.
- **Following.** `FileTree.follow?`, which passes through folders only.
- **Making.** `FileTree.makeFolder?`, which makes the folders that are missing on the way.
-/

namespace ProbeRecorder

/-! ## Paths -/

/-- **Path**: the parts that lead somewhere. A path from the root starts with a slash. -/
abbrev Path := List String

namespace Path

/-- Goes one part further; two points lead back. -/
def step (path : Path) (part : String) : Path :=
  if part = ".." then
    match path.getLast? with
    | none | some ".." => path ++ [".."]
    | some "/" => path
    | some _ => path.dropLast
  else path ++ [part]

/-- Where the path of a text starts. -/
def start (text : String) : Path := if text.startsWith "/" then ["/"] else []

/-- The parts of a text that lead further. -/
def parts (text : String) : List String := (text.splitOn "/").filter fun part => part ≠ "" ∧ part ≠ "."

/-- The last part of a text is a point, which leads no further. -/
def endsInPoint (text : String) : Bool := ((text.splitOn "/").filter (· ≠ "")).getLast? = some "."

/-- Nothing but a folder that is there can be meant. -/
def meansFolder (text : String) : Bool := text.endsWith "/" || endsInPoint text

/-- The path of a text inside a folder. A text from the root stands on its own. -/
def join (folder text : String) : String :=
  if folder = "" || text.startsWith "/" then text
  else if folder.endsWith "/" then folder ++ text
  else folder ++ "/" ++ text

/-- A name can be no longer than this, in bytes. -/
def nameLimit : Nat := 255

/-- The text can be a path: no name in it is too long, and no character ends it too early. -/
def isPossible (text : String) : Bool :=
  !text.toList.contains (Char.ofNat 0) && (parts text).all fun part => part.utf8ByteSize ≤ nameLimit

end Path

/-! ## Trees -/

/-- What stands at a place. -/
inductive FileNode where
  | folder
  /-- The database of the stored log. -/
  | log
  | file (isEmpty : Bool)
  deriving DecidableEq, Repr

/-- **File tree**: what is known to stand somewhere. -/
structure FileTree where
  nodes : List (Path × FileNode)

namespace FileTree

/-- What every system has: a folder for passing files, a device that is always empty, and the processes,
    among which no folder can be made. -/
def standardNodes : List (Path × FileNode) :=
  [(["/", "tmp"], .folder), (["/", "dev"], .folder), (["/", "dev", "null"], .file true),
   (["/", "proc"], .file false)]

/-- A tree of nothing but the folder in which the command runs, and those around it. -/
def empty : FileTree := ⟨standardNodes⟩

/-- What stands at a place, if anything does. -/
def node? (t : FileTree) (path : Path) : Option FileNode :=
  if path.all fun part => part = ".." ∨ part = "/" then some .folder else t.nodes.lookup path

def isFolder (t : FileTree) (path : Path) : Bool := t.node? path = some .folder

/-- The tree with something at a place. -/
def put (t : FileTree) (path : Path) (node : FileNode) : FileTree := ⟨(path, node) :: t.nodes⟩

/-! ## Following -/

/-- One part further, out of a folder. -/
def enter? (t : FileTree) (path : Path) (part : String) : Option Path :=
  if t.isFolder path then some (path.step part) else none

/-- **The place that a text leads to.** There need not be anything, but the way to it must be there. -/
def follow? (t : FileTree) (text : String) : Option Path := do
  let path ← (Path.parts text).foldlM t.enter? (Path.start text)
  if Path.meansFolder text && !t.isFolder path then none else return path

/-! ## Making -/

/-- One part further, into a folder that is made if it is missing. -/
def enterMaking? (here : FileTree × Path) (part : String) : Option (FileTree × Path) :=
  let path := here.2.step part
  match here.1.node? path with
  | some .folder => some (here.1, path)
  | some _ => none
  | none => some (here.1.put path .folder, path)

/-- **Makes the folder that a text names**, and those around it. A last part with a point after it is not
    made. -/
def makeFolder? (t : FileTree) (text : String) : Option FileTree :=
  let parts := Path.parts text
  let made := if Path.endsInPoint text then parts.dropLast else parts
  if Path.isPossible text then do
    let (t, path) ← made.foldlM enterMaking? (t, Path.start text)
    let path := (parts.drop made.length).foldl Path.step path
    if t.isFolder path then return t else none
  else none

end FileTree
end ProbeRecorder
