import ProbeRecorder.Config.Load
import ProbeRecorder.Storage.Catalog
import ProbeRecorder.Storage.DatabaseName
import ProbeRecorder.Storage.FileTree

/-!
# `ProbeRecorder.Storage.Location` — where a log lies

A log is a database and a folder of batch files. The database knows the paths of its batch files, as they were
written: the name of the folder that was configured then, with what is not UTF-8 in it replaced. So a log is
found again where its database is found, as long as these paths still lead to its files. Here they do: paths are
texts, and a log is looked for from the folder it was written from.

## Contents
- **Locations.** `StorageConfig.database` and `StorageConfig.batches`.
- **Laying.** `FileTree.withLog`, the tree once a log is stored in it, and `FileTree.withFile`.
- **Finding.** `FileTree.configFile?`.
- **Opening.** `FileTree.databaseAt`, what the name of a database leads to.
- **Looking.** `Disk.seenFrom`, what of a stored log is found from a configuration.
-/

namespace ProbeRecorder

/-! ## Locations -/

/-- The path of the database. -/
def StorageConfig.database (c : StorageConfig) : String := Path.join c.baseDir c.dbName

/-- The path of the folder of batch files. -/
def StorageConfig.batches (c : StorageConfig) : String := Path.join c.baseDir c.eventsDir

namespace FileTree

/-! ## Laying -/

/-- The batch files of a disk. -/
def batchNodes (d : Disk) (folder : Path) : List (Path × FileNode) :=
  match d.folder with
  | .directory files =>
    files.bindings.map fun (sequence, content) => (folder ++ [batchFileName sequence], .file content.isEmpty)
  | _ => []

/-- Lays a log, if that can be done. -/
def layLog? (t : FileTree) (home : StorageConfig) (d : Disk) : Option FileTree := do
  let t ← t.makeFolder? home.batches
  let t : FileTree := ⟨batchNodes d (← t.follow? home.batches) ++ t.nodes⟩
  return t.put (← t.follow? home.database) .log

/-- **The tree with a log in it**, if there is one. -/
def withLog (t : FileTree) (home : StorageConfig) (d : Disk) : FileTree :=
  match d.database with
  | .file _ => (t.layLog? home d).getD t
  | _ => t

/-- The tree with a file of the given name and content in it, if there is one. -/
def withFile (t : FileTree) : Option (String × String) → FileTree
  | some (name, content) => t.put [name] (.file content.isEmpty)
  | none => t

/-! ## Finding -/

/-- **The configuration file**, if one of the names under which it is looked for leads to it. -/
def configFile? (t : FileTree) (environment : List (String × String)) (file : Option (String × String)) :
    Option (String × String) :=
  file.filter fun f => (Config.fileNames environment).any fun name => t.follow? name = some [f.1]

/-! ## Opening -/

/-- One part further towards a database. Two points lead back whatever is there, and only a file is in the
    way. -/
def approach? (t : FileTree) (path : Path) (part : String) : Option Path :=
  match if part = ".." then some .folder else t.node? path with
  | some .folder | none => some (path.step part)
  | _ => none

/-- What can be opened as a database. -/
inductive DatabaseFound where
  | log
  | other (database : Database)

/-- The place that the path of a database leads to, in a folder that is there. -/
def databasePath? (t : FileTree) (text : String) : Option Path := do
  let path ← if Path.isPossible text then (Path.parts text).foldlM t.approach? (Path.start text) else none
  if t.isFolder path.dropLast then return path else none

/-- **What the name of a database leads to.** What cannot be opened counts as a directory. -/
def databaseAt (t : FileTree) (text : String) : DatabaseFound :=
  match DatabaseName.ofText? text with
  | none => .other .directory
  | some name =>
    if name.isTransient then .other .missing
    else match t.databasePath? name.path with
      | none => .other .directory
      | some path =>
        match t.node? path with
        | none => .other (if name.isMade then .missing else .directory)
        | some .log => .log
        | some .folder => .other .directory
        | some (.file true) => .other (.file ⟨none, none⟩)
        | some (.file false) => .other .foreign

end FileTree

/-! ## Looking -/

/-- **What is found from a configuration** when a log is stored in a tree. -/
def Disk.seenFrom (stored : Disk) (t : FileTree) (c : StorageConfig) : Disk :=
  match t.makeFolder? c.batches with
  | none => { Disk.blank with folder := .file }
  | some t =>
    match t.databaseAt c.database with
    | .log => stored
    | .other database => { Disk.blank with database := database }

end ProbeRecorder
