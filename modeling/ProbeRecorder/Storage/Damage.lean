import ProbeRecorder.Storage.Disk

/-!
# `ProbeRecorder.Storage.Damage` — what happens to the disk from outside

## Contents
- **Damage.** `Damage` and `Disk.suffer`, which says whether there was anything to damage.
-/

namespace ProbeRecorder

/-- **Changes made behind the storage's back.** -/
inductive Damage where
  | deleteBatch (sequence : Int)
  | overwriteBatch (sequence : Int) (content : Bytes)
  | removeFolder
  /-- An empty folder comes back. -/
  | restoreFolder
  | dropBatches
  | dropClasses
  /-- A table that never was is to be dropped. -/
  | dropOther
  /-- A file stands where the folder belongs. -/
  | folderIsFile
  /-- A directory stands where the database belongs. -/
  | databaseIsDirectory

namespace Disk

def sufferFolder (d : Disk) : Damage → Bool × Disk
  | .deleteBatch sequence =>
    match d.folder with
    | .directory files =>
      (files.contains sequence, { d with folder := .directory (files.erase sequence) })
    | _ => (false, d)
  | .overwriteBatch sequence content =>
    match d.writeFile sequence content with
    | some d => (true, d)
    | none => (false, d)
  | .removeFolder =>
    match d.folder with
    | .directory _ => (true, { d with folder := .missing })
    | _ => (false, d)
  | .restoreFolder =>
    match d.folder with
    | .missing => (true, { d with folder := .directory .empty })
    | .directory _ => (true, d)
    | .file => (false, d)
  | .folderIsFile =>
    match d.folder with
    | .directory _ => (false, d)
    | _ => (true, { d with folder := .file })
  | _ => (false, d)

/-- Looks in vain for a table. That leaves an empty database behind if there was none. -/
def lookFor (d : Disk) : Bool × Disk :=
  match d.database with
  | .missing => (false, { d with database := .file ⟨none, none⟩ })
  | _ => (false, d)

/-- **Damage** changes the disk if it can, and says so. -/
def suffer (d : Disk) : Damage → Bool × Disk
  | .dropBatches =>
    match d.database with
    | .file ⟨some _, classes⟩ => (true, { d with database := .file ⟨none, classes⟩, outdated := true })
    | _ => d.lookFor
  | .dropClasses =>
    match d.database with
    | .file ⟨batches, some _⟩ => (true, { d with database := .file ⟨batches, none⟩, outdated := true })
    | _ => d.lookFor
  | .dropOther => d.lookFor
  | .databaseIsDirectory =>
    match d.database with
    | .file _ | .foreign => (false, d)
    | _ => (true, { d with database := .directory })
  | damage => d.sufferFolder damage

end Disk
end ProbeRecorder
