import Mathlib.Data.List.Forall2
import ProbeRecorder.Storage.Disk

/-!
# `ProbeRecorder.Proofs.Storage.Stored` — the batches a disk holds

A disk holds batches when its index numbers them from one on and the file of every number reads as the
entries of its batch. A file that no row refers to is not part of what is held: a batch whose row was
refused leaves such a file, and the next batch takes its number and its place.

## Contents
- **Numbers.** `batchNumbers`; the next free one (`Disk.nextSequence_eq`).
- **Calls.** All that opening again and writing do to a disk in use (`Disk.prepare_of_used`,
  `Disk.writeBatch_of_free`, `Disk.writeBatch_of_fault`).
- **Holding.** `Disk.Indexed`, `Disk.Holds`, and reading (`Disk.Holds.readEntries`).
- **Opening.** `Disk.prepare_of_missing`, `Disk.Holds.prepare`.
- **Writing.** `Disk.Holds.writeBatch_taken`, `Disk.Holds.writeBatch_refused`, `Disk.Holds.recordClass`.
-/

namespace ProbeRecorder

/-! ## Numbers -/

/-- The numbers of the first batches. -/
def batchNumbers (count : Nat) : List Int := (List.range count).map fun i : Nat => (i : Int) + 1

theorem batchNumbers_succ (count : Nat) :
    batchNumbers (count + 1) = batchNumbers count ++ [(count : Int) + 1] := by
  rw [batchNumbers, List.range_succ, List.map_append]
  rfl

theorem foldl_max_batchNumbers (count : Nat) : (batchNumbers count).foldl max 0 = count := by
  induction count with
  | zero => rfl
  | succ n ih =>
      rw [batchNumbers_succ, List.foldl_append, ih]
      show max (n : Int) (n + 1) = _
      omega

theorem le_of_mem_batchNumbers {count : Nat} {n : Int} (h : n ∈ batchNumbers count) : n ≤ count := by
  obtain ⟨i, hi, rfl⟩ := List.mem_map.1 h
  have := List.mem_range.1 hi
  omega

/-- Reading row by row succeeds if every row does. -/
theorem mapM_eq_ok {α β ε : Type} {f : α → Except ε β} {as : List α} {bs : List β}
    (h : List.Forall₂ (fun a b => f a = .ok b) as bs) : as.mapM f = .ok bs := by
  induction h with
  | nil => rfl
  | cons head _ ih =>
      rw [List.mapM_cons, head, ih]
      rfl

/-- The error of a write that meets a fault. -/
def BatchFault.error : BatchFault → RecorderError
  | number => Disk.storageError "Sequence query failed"
  | file => Disk.storageError "Failed to write batch file"
  | row => Disk.storageError "Failed to record batch metadata"

namespace Disk

/-- **The next number** follows those in the index. -/
theorem nextSequence_eq {rows : List BatchRow} {count : Nat}
    (h : rows.map (·.sequence) = batchNumbers count) : nextSequence rows = count + 1 := by
  have hfold : rows.foldl (fun n r => max n r.sequence) 0 = (rows.map (·.sequence)).foldl max 0 :=
    (List.foldl_map).symm
  rw [nextSequence, hfold, h, foldl_max_batchNumbers]

/-! ## Calls -/

section Calls

variable {d : Disk} {files : FiniteMap Int Bytes} {rows : List BatchRow}

/-- **Opening a disk again**, where nothing is missing. -/
theorem prepare_of_used {classes : FiniteMap ClassId ClassRow} (folder : d.folder = .directory files)
    (database : d.database = .file ⟨some rows, some classes⟩) : d.prepare = (.ok (), d.used) := by
  obtain ⟨_, _, outdated, faults, refusals⟩ := d
  subst folder database
  rfl

/-- **A write that meets no fault** puts its file and its row under the next number. -/
theorem writeBatch_of_free {classes : Option (FiniteMap ClassId ClassRow)}
    (folder : d.folder = .directory files) (database : d.database = .file ⟨some rows, classes⟩)
    (content : Bytes) (entryCount : Int64) (free : d.batchFaults.head?.join = none) :
    d.writeBatch content entryCount = (.ok (nextSequence rows), { d with
      folder := .directory (files.put (nextSequence rows) content)
      database := .file ⟨some (rows ++ [⟨nextSequence rows, entryCount, content.length⟩]), classes⟩
      outdated := false
      batchFaults := d.batchFaults.drop 1 }) := by
  unfold writeBatch writeBatchMeeting
  rw [free]
  simp only [tables, used, database, writeFile, folder, reduceCtorEq, if_false, appendRow]

/-- **A write that meets a fault** says where, and changes no row. Only a batch whose row is refused leaves
    its file. -/
theorem writeBatch_of_fault {classes : Option (FiniteMap ClassId ClassRow)}
    (folder : d.folder = .directory files) (database : d.database = .file ⟨some rows, classes⟩)
    (content : Bytes) (entryCount : Int64) {fault : BatchFault}
    (meets : d.batchFaults.head?.join = some fault) :
    d.writeBatch content entryCount = (.error fault.error, { d with
      folder := .directory (if fault = .row then files.put (nextSequence rows) content else files)
      outdated := false
      batchFaults := d.batchFaults.drop 1 }) := by
  unfold writeBatch writeBatchMeeting
  rw [meets]
  cases fault <;> simp [tables, used, database, writeFile, folder, BatchFault.error]

end Calls

/-! ## Holding -/

variable [c : Compression]

/-- The file of a row is there and reads as the entries. -/
def Readable (files : FiniteMap Int Bytes) (row : BatchRow) (entries : List Entry) : Prop :=
  ∃ content, files.get? row.sequence = some content ∧ c.read content = .ok entries

/-- The rows number the batches in order, and every file reads as its batch. -/
structure Indexed (files : FiniteMap Int Bytes) (rows : List BatchRow) (batches : List (List Entry)) :
    Prop where
  numbered : rows.map (·.sequence) = batchNumbers batches.length
  readable : List.Forall₂ (Readable files) rows batches

theorem Indexed.nil (files : FiniteMap Int Bytes) : Indexed files [] [] := ⟨rfl, .nil⟩

/-- A file under the next number disturbs no batch: every row has a smaller one. -/
theorem Indexed.put_next {files : FiniteMap Int Bytes} {rows : List BatchRow}
    {batches : List (List Entry)} (h : Indexed files rows batches) (content : Bytes) :
    Indexed (files.put (batches.length + 1) content) rows batches := by
  have bound : ∀ row ∈ rows, row.sequence ≤ batches.length := fun row hrow =>
    le_of_mem_batchNumbers (h.numbered ▸ List.mem_map_of_mem hrow)
  -- So the new file does not lie in the place of any file that a row refers to.
  have both := (List.forall₂_and_left rows batches).2 ⟨bound, h.readable⟩
  refine ⟨h.numbered, both.imp ?_⟩
  rintro row entries ⟨hle, stored, hget, hdec⟩
  refine ⟨stored, ?_, hdec⟩
  rw [FiniteMap.get?_put, if_neg (by omega)]
  exact hget

/-- A batch is added by its file and its row. -/
theorem Indexed.append {files : FiniteMap Int Bytes} {rows : List BatchRow} {batches : List (List Entry)}
    (h : Indexed files rows batches) {content : Bytes} {entries : List Entry}
    (hdec : c.read content = .ok entries) (entryCount : Int64) (size : Nat) :
    Indexed (files.put (batches.length + 1) content)
      (rows ++ [⟨batches.length + 1, entryCount, size⟩]) (batches ++ [entries]) := by
  have kept := h.put_next content
  constructor
  · rw [List.map_append, kept.numbered, List.length_append]
    exact (batchNumbers_succ _).symm
  · refine List.rel_append kept.readable (.cons ⟨content, ?_, hdec⟩ .nil)
    rw [FiniteMap.get?_put, if_pos rfl]

/-- **A disk holds batches**, in this order. -/
def Holds (d : Disk) (batches : List (List Entry)) : Prop :=
  ∃ files rows classes, d.folder = .directory files ∧ d.database = .file ⟨some rows, some classes⟩ ∧
    Indexed files rows batches

/-- **Reading** gives the entries of the batches one after the other. -/
theorem Holds.readEntries {d : Disk} {batches : List (List Entry)} (h : d.Holds batches) :
    d.readEntries = .ok batches.flatten := by
  obtain ⟨files, rows, classes, hf, hd, hi⟩ := h
  have htab : d.tables = ⟨some rows, some classes⟩ := by rw [tables, hd]
  have hrow : ∀ row ∈ rows, ∀ entries, Readable files row entries → d.entriesOf row = .ok entries := by
    rintro row hmem entries ⟨content, hget, hdec⟩
    have hany : (rows.any fun r => decide (r.sequence = row.sequence)) = true :=
      List.any_eq_true.2 ⟨row, hmem, decide_eq_true rfl⟩
    rw [entriesOf, readBatch, htab]
    simp only [Option.getD_some, hany, if_true, readFile?, hf, hget]
    exact hdec
  have both := (List.forall₂_and_left rows batches).2 ⟨hrow, hi.readable⟩
  have hall : rows.mapM d.entriesOf = .ok batches :=
    mapM_eq_ok (both.imp fun _ entries h => h.1 entries h.2)
  rw [Disk.readEntries, batchRows, htab]
  show (do let bs ← rows.mapM d.entriesOf; return bs.flatten : Except RecorderError (List Entry)) = _
  rw [hall]
  rfl

/-! ## Opening -/

/-- A disk with nothing on it opens, and holds no batch. -/
theorem prepare_of_missing {d : Disk} (folder : d.folder = .missing) (database : d.database = .missing) :
    ∃ opened, d.prepare = (.ok (), opened) ∧ opened.Holds [] ∧ opened.batchFaults = d.batchFaults := by
  unfold prepare prepareFolder prepareTables
  rw [folder]
  simp only [database]
  exact ⟨_, rfl, ⟨.empty, [], .empty, rfl, rfl, Indexed.nil _⟩, rfl⟩

/-- **Opening a disk again** leaves what it holds. -/
theorem Holds.prepare {d : Disk} {batches : List (List Entry)} (h : d.Holds batches) :
    ∃ opened, d.prepare = (.ok (), opened) ∧ opened.Holds batches ∧
      opened.batchFaults = d.batchFaults := by
  obtain ⟨files, rows, classes, hf, hd, hi⟩ := h
  exact ⟨d.used, prepare_of_used hf hd, ⟨files, rows, classes, hf, hd, hi⟩, rfl⟩

/-! ## Writing -/

/-- **A batch that meets no fault** is held from then on, behind the others. -/
theorem Holds.writeBatch_taken {d : Disk} {batches : List (List Entry)} (h : d.Holds batches)
    {content : Bytes} {entries : List Entry} (hdec : c.read content = .ok entries)
    (entryCount : Int64) (free : d.batchFaults.head?.join = none) :
    ∃ number after, d.writeBatch content entryCount = (.ok number, after) ∧
      after.Holds (batches ++ [entries]) ∧ after.batchFaults = d.batchFaults.drop 1 := by
  obtain ⟨files, rows, classes, hf, hd, hi⟩ := h
  have happ := hi.append hdec entryCount content.length
  rw [← nextSequence_eq hi.numbered] at happ
  rw [writeBatch_of_free hf hd content entryCount free]
  exact ⟨_, _, rfl, ⟨_, _, classes, rfl, rfl, happ⟩, rfl⟩

/-- **A batch that meets a fault** is not held, wherever the fault comes: its file lies under a number that
    no row has. -/
theorem Holds.writeBatch_refused {d : Disk} {batches : List (List Entry)} (h : d.Holds batches)
    (content : Bytes) (entryCount : Int64) {fault : BatchFault}
    (meets : d.batchFaults.head?.join = some fault) :
    ∃ error after, d.writeBatch content entryCount = (.error error, after) ∧
      after.Holds batches ∧ after.batchFaults = d.batchFaults.drop 1 := by
  obtain ⟨files, rows, classes, hf, hd, hi⟩ := h
  rw [writeBatch_of_fault hf hd content entryCount meets]
  refine ⟨_, _, rfl, ⟨_, rows, classes, rfl, hd, ?_⟩, rfl⟩
  split
  · -- The file was written before its row was refused.
    have left := hi.put_next content
    rw [← nextSequence_eq hi.numbered] at left
    exact left
  · exact hi

/-- **The row of a class** touches no batch, written or refused. -/
theorem Holds.recordClass {d : Disk} {batches : List (List Entry)} (h : d.Holds batches)
    (classId : ClassId) (probes : List ProbeId) :
    (d.recordClass classId probes).2.Holds batches ∧
      (d.recordClass classId probes).2.batchFaults = d.batchFaults := by
  obtain ⟨files, rows, classes, hf, hd, hi⟩ := h
  unfold Disk.recordClass
  simp only [tables, hd, used]
  split
  · exact ⟨⟨files, rows, classes, hf, rfl, hi⟩, rfl⟩
  · exact ⟨⟨files, rows, _, hf, rfl, hi⟩, rfl⟩

end Disk
end ProbeRecorder
