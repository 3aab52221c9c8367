import ProbeRecorder.Storage.Disk

/-!
# `ProbeRecorder.Writer.Archive` — storing one batch

## Contents
- **Archive.** `Archive`, a disk with a compression level and counters.
- **Storing.** `Archive.store`; a batch that cannot be compressed or written is dropped and counted.
-/

namespace ProbeRecorder

/-- **Archive.** Its counters have no bound; those of a running writer are words of 64 bits. -/
structure Archive where
  level : CompressionLevel
  disk : Disk
  entriesFlushed : Nat := 0
  batchesFlushed : Nat := 0
  bytesWritten : Nat := 0
  flushFailures : Nat := 0
  /-- Registrations that are stored without their row. -/
  classFailures : Nat := 0

namespace Archive

/-- Writes the row of a registration; other entries have none. -/
def storeRow (a : Archive) : Entry → Archive
  | .event _ => a
  | .weave classId probes =>
    match a.disk.recordClass classId probes with
    | (.ok (), disk) => { a with disk := disk }
    | (.error _, disk) => { a with disk := disk, classFailures := a.classFailures + 1 }

/-- A batch that is dropped. -/
def countFailure (a : Archive) : Archive := { a with flushFailures := a.flushFailures + 1 }

/-- **Stores a batch**: first its entries, in one file, then the rows of its registrations. A row that
    cannot be written is no failure of the batch. -/
def store [c : Compression] (a : Archive) (entries : List Entry) : Except RecorderError Unit × Archive :=
  match c.encode a.level entries with
  | .error e => (.error e, a.countFailure)
  | .ok content =>
    match a.disk.writeBatch content entries.length.toInt64 with
    | (.ok _, disk) =>
      let stored := entries.foldl storeRow { a with disk := disk }
      (.ok (), { stored with
        entriesFlushed := stored.entriesFlushed + entries.length
        batchesFlushed := stored.batchesFlushed + 1
        bytesWritten := stored.bytesWritten + content.length })
    | (.error e, disk) => (.error e, { a with disk := disk }.countFailure)

end Archive
end ProbeRecorder
