import ProbeRecorder.Batch.Codec
import ProbeRecorder.FiniteMap

/-!
# `ProbeRecorder.Storage.Disk` — the stored log

Batches lie in one file each; a database keeps an index of them, in the order in which they were written,
and a row for every registered class.

## Contents
- **Disk.** `Disk`, with the `Folder` of the batch files and the `Database`; `BatchFault`.
- **Opening.** `Disk.prepare`.
- **Writing.** `Disk.writeBatch`, `Disk.recordClass`.
- **Reading.** `readBatch`, `batchRows`, `classRows`, `readEntries`, `readEvents`, `stats`; the disk is
  `used` afterwards.
-/

namespace ProbeRecorder

/-! ## Disk -/

/-- One batch in the index. -/
structure BatchRow where
  sequence : Int
  entryCount : Int64
  size : Nat
  deriving DecidableEq, Repr

/-- One registered class: the first of its probes, and how many there are. -/
structure ClassRow where
  anchor : Option ProbeId
  probeCount : Nat
  deriving DecidableEq, Repr

/-- What stands at the place of the batch files; the files are known by their sequence number. -/
inductive Folder where
  | missing
  | file
  | directory (files : FiniteMap Int Bytes)

/-- The tables of the database; one that was dropped is absent. -/
structure Tables where
  batches : Option (List BatchRow)
  classes : Option (FiniteMap ClassId ClassRow)

/-- What stands at the place of the database. -/
inductive Database where
  | missing
  | directory
  /-- A file with something else in it. -/
  | foreign
  | file (tables : Tables)

/-- Where the medium refuses to write a batch: at the question for its number, at its file, or at its row
    in the index. -/
inductive BatchFault where
  | number
  | file
  | row
  deriving DecidableEq, Repr

/-- **Disk.** The two lists say what happens to the coming writes of batches and of class rows; those beyond
    their ends are not refused. -/
structure Disk where
  folder : Folder
  database : Database
  /-- Tables were dropped since the storage last used the database. -/
  outdated : Bool
  batchFaults : List (Option BatchFault)
  rowRefusals : List Bool

namespace Disk

/-- Nothing stored yet. -/
def blank : Disk := ⟨.missing, .missing, false, [], []⟩

def storageError (detail : String) : RecorderError := ⟨.storage, detail⟩

/-- The tables in use. -/
def tables (d : Disk) : Tables :=
  match d.database with
  | .file t => t
  | _ => ⟨none, none⟩

/-- The disk after the storage has used the database, and so has seen which tables there are. -/
def used (d : Disk) : Disk := { d with outdated := false }

/-! ## Opening -/

/-- Makes the folder of the batch files if there is none. -/
def prepareFolder (d : Disk) : Except RecorderError Unit × Disk :=
  match d.folder with
  | .missing => (.ok (), { d with folder := .directory .empty })
  | .directory _ => (.ok (), d)
  | .file => (.error (storageError "Failed to create events directory"), d)

/-- Makes the database and the tables that are missing. -/
def prepareTables (d : Disk) : Except RecorderError Unit × Disk :=
  match d.database with
  | .directory => (.error (storageError "Failed to open database"), d)
  | .foreign => (.error (storageError "Schema creation failed"), d)
  | _ =>
    let t := d.tables
    let made : Tables := ⟨some (t.batches.getD []), some (t.classes.getD .empty)⟩
    (.ok (), { d with database := .file made, outdated := false })

/-- **Opens the storage**, making what is missing. -/
def prepare (d : Disk) : Except RecorderError Unit × Disk :=
  match d.prepareFolder with
  | (.ok (), d) => d.prepareTables
  | (.error e, d) => (.error e, d)

/-! ## Writing -/

/-- The number of the next batch: one more than the largest stored. -/
def nextSequence (rows : List BatchRow) : Int := rows.foldl (fun n r => max n r.sequence) 0 + 1

/-- Puts content into a file of the folder. -/
def writeFile (d : Disk) (sequence : Int) (content : Bytes) : Option Disk :=
  match d.folder with
  | .directory files => some { d with folder := .directory (files.put sequence content) }
  | _ => none

/-- Adds a row to the index. -/
def appendRow (d : Disk) (rows : List BatchRow) (row : BatchRow) : Disk :=
  { d with database := .file { d.tables with batches := some (rows ++ [row]) } }

/-- What happens to a write that meets the given fault. A file whose row is refused stays, and nothing
    refers to it. -/
def writeBatchMeeting (d : Disk) (fault : Option BatchFault) (content : Bytes) (entryCount : Int64) :
    Except RecorderError Int × Disk :=
  match if fault = some .number then none else d.tables.batches with
  | none => (.error (storageError "Sequence query failed"), d)
  | some rows =>
    let sequence := nextSequence rows
    match if fault = some .file then none else d.writeFile sequence content with
    | none => (.error (storageError "Failed to write batch file"), d)
    | some d =>
      if fault = some .row then (.error (storageError "Failed to record batch metadata"), d)
      else (.ok sequence, d.appendRow rows ⟨sequence, entryCount, content.length⟩)

/-- **Writes a batch** with the given number of entries; gives its sequence number. -/
def writeBatch (d : Disk) (content : Bytes) (entryCount : Int64) : Except RecorderError Int × Disk :=
  { d.used with batchFaults := d.batchFaults.drop 1 }.writeBatchMeeting d.batchFaults.head?.join content
    entryCount

/-- **Notes a class**; a later row replaces an earlier one. -/
def recordClass (d : Disk) (classId : ClassId) (probes : List ProbeId) :
    Except RecorderError Unit × Disk :=
  match d.tables.classes with
  | none => (.error (storageError "Failed to record class"), d.used)
  | some rows =>
    let refused := d.rowRefusals.headD false
    let d := { d.used with rowRefusals := d.rowRefusals.drop 1 }
    if refused then (.error (storageError "Failed to record class"), d)
    else
      let row : ClassRow := ⟨probes.head?, probes.length⟩
      (.ok (), { d with database := .file { d.tables with classes := some (rows.put classId row) } })

/-! ## Reading -/

/-- The content of a file of the folder. -/
def readFile? (d : Disk) (sequence : Int) : Option Bytes :=
  match d.folder with
  | .directory files => files.get? sequence
  | _ => none

/-- **Reads a batch** as stored. -/
def readBatch (d : Disk) (sequence : Int) : Except RecorderError Bytes :=
  if (d.tables.batches.getD []).any (·.sequence = sequence) then
    match d.readFile? sequence with
    | some content => .ok content
    | none => .error (storageError "Failed to read batch file")
  else .error (storageError "Batch not found")

/-- The error of listing a table that is not there. A storage that still takes it for present notices only
    when it collects the rows. -/
def missingTable (d : Disk) : RecorderError :=
  storageError (if d.outdated then "Result collection failed" else "Query preparation failed")

/-- The index, in the order of writing. -/
def batchRows (d : Disk) : Except RecorderError (List BatchRow) :=
  match d.tables.batches with
  | some rows => .ok rows
  | none => .error d.missingTable

/-- The registered classes, by number. -/
def classRows (d : Disk) : Except RecorderError (List (ClassId × ClassRow)) :=
  match d.tables.classes with
  | some rows => .ok (rows.bindings.mergeSort fun a b => a.1.toInt ≤ b.1.toInt)
  | none => .error d.missingTable

section Entries

variable [c : Compression]

/-- The entries of one batch. -/
def entriesOf (d : Disk) (row : BatchRow) : Except RecorderError (List Entry) := do
  c.read (← d.readBatch row.sequence)

/-- **Every stored entry**, in the order of the log. -/
def readEntries (d : Disk) : Except RecorderError (List Entry) := do
  let batches ← (← d.batchRows).mapM d.entriesOf
  return batches.flatten

/-- Every stored event, in the order of the log. -/
def readEvents (d : Disk) : Except RecorderError (List Event) := do
  return eventsOf (← d.readEntries)

end Entries

/-- What is stored, in numbers. -/
structure Totals where
  batches : Nat
  entries : UInt64
  classes : Nat
  size : Nat
  deriving DecidableEq, Repr

/-- The sum of 64-bit counts, as long as it is one itself. -/
def sumCounts : Int → List Int64 → Option Int
  | total, [] => some total
  | total, n :: rest =>
    let next := total + n.toInt
    if (Number.signed 64).contains next then sumCounts next rest else none

/-- **Totals** of the storage. -/
def stats (d : Disk) : Except RecorderError Totals :=
  match d.tables.batches, d.tables.classes with
  | some batches, some classes =>
    match sumCounts 0 (batches.map (·.entryCount)) with
    | some entries =>
      .ok ⟨batches.length, (Int64.ofInt entries).toUInt64, classes.size,
        batches.foldl (fun n row => n + row.size) 0⟩
    | none => .error (storageError "Stats query failed")
  | _, _ => .error (storageError "Stats query failed")

end Disk
end ProbeRecorder
