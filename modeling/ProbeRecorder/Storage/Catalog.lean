import ProbeRecorder.Json.Decoder
import ProbeRecorder.Json.Printer
import ProbeRecorder.Storage.Disk

/-!
# `ProbeRecorder.Storage.Catalog` — the database as a record

The tables of the database are kept in one JSON record, next to the batch files that they speak of.

## Contents
- **Rows.** Records of single rows.
- **Tables.** `Tables.toJson`, `Tables.decoder`; `Tables.write` and `Tables.read?` for the bytes of a file.
- **Batch files.** `batchFileName`.
-/

namespace ProbeRecorder

/-! ## Rows -/

namespace BatchRow

def fieldNames : List String := ["sequence", "entry_count", "size"]

def toJson (r : BatchRow) : Json :=
  .obj [("sequence", .int r.sequence), ("entry_count", .int r.entryCount.toInt), ("size", .int r.size)]

def decoder : Json.Decoder BatchRow := fun depth t => do
  let f ← Json.Decoder.record fieldNames depth t
  return {
    sequence := (← f.required 0 .int64).toInt
    entryCount := ← f.required 1 .int64
    size := (← f.required 2 .uint64).toNat }

end BatchRow

namespace ClassRow

def fieldNames : List String := ["class_id", "anchor", "probe_count"]

/-- The row of a class. -/
def toJson (row : ClassId × ClassRow) : Json :=
  .obj [("class_id", .int row.1.toInt),
    ("anchor", match row.2.anchor with | some p => .int p.toInt | none => .null),
    ("probe_count", .int row.2.probeCount)]

def decoder : Json.Decoder (ClassId × ClassRow) := fun depth t => do
  let f ← Json.Decoder.record fieldNames depth t
  return (← f.required 0 .int32, {
    anchor := ← f.orElse 1 (.optional .int32) none
    probeCount := (← f.required 2 .uint64).toNat })

end ClassRow

/-! ## Tables -/

namespace Tables

def fieldNames : List String := ["event_batches", "classes"]

/-- The record of a table; a table that was dropped is null. -/
def tableJson {α : Type} (row : α → Json) : Option (List α) → Json
  | some rows => .arr (rows.map row)
  | none => .null

def toJson (t : Tables) : Json :=
  .obj [("event_batches", tableJson BatchRow.toJson t.batches),
    ("classes", tableJson ClassRow.toJson (t.classes.map (·.bindings)))]

def decoder : Json.Decoder Tables := fun depth t => do
  let f ← Json.Decoder.record fieldNames depth t
  let classes ← f.orElse 1 (.optional (.list ClassRow.decoder)) none
  return {
    batches := ← f.orElse 0 (.optional (.list BatchRow.decoder)) none
    classes := classes.map fun rows => rows.foldr (fun row m => m.put row.1 row.2) .empty }

/-- **The bytes of the database file.** -/
def write (t : Tables) : Bytes := Text.utf8 t.toJson.compact

/-- **Reads the database file**; an empty file is a database without tables. -/
def read? (content : Bytes) : Option Tables :=
  if content.isEmpty then some ⟨none, none⟩
  else do decoder.run? (← Text.ofUtf8? content).toList

end Tables

/-! ## Batch files -/

/-- The name of the file of a batch: its number with at least eight digits. -/
def batchFileName (sequence : Int) : String :=
  let digits := Number.decimalDigits sequence.toNat
  String.ofList ("batch_".toList ++ List.replicate (8 - digits.length) '0' ++ digits ++ ".zst".toList)

end ProbeRecorder
