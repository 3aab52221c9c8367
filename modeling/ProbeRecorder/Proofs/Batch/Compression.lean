import ProbeRecorder.Proofs.Batch.Frame
import ProbeRecorder.Proofs.Batch.RoundTrip

/-!
# `ProbeRecorder.Proofs.Batch.Compression` — stored batches under any compression

The format of a batch does not depend on how its record is compressed. It suffices that decompression undoes
compression; then every batch is read back, also by a reader that was set to another level than the writer.

## Contents
- **Undoing.** `Compression.Undoes`, all that is asked of a compression; batches are read back
  (`Compression.exists_encode`).
- **Frames.** `Compression.frames` undo themselves (`Compression.frames_undoes`); with them stored batches are
  `Batch.encode` and `Batch.decode`.
- **Faithfulness.** `Compression.decode`, and `Batch.stored_faithfully`.
-/

namespace ProbeRecorder

namespace Compression

/-! ## Undoing -/

/-- **Decompression undoes compression**, at every level. -/
def Undoes (c : Compression) : Prop :=
  ∀ level content, ∃ packed, c.pack level content = .ok packed ∧ c.unpack packed = .ok content

/-- What is stored is the record, so the entries come back if the record does. -/
theorem read_of_unpack {c : Compression} {stored : Bytes} {entries : List Entry}
    (h : c.unpack stored = .ok (Text.utf8 (Batch.text entries))) : c.read stored = .ok entries := by
  simp only [read, h, bind, Except.bind, Batch.ofText?_text]
  rfl

/-- **A batch is stored and read back**, at whatever level it is stored. -/
theorem exists_encode {c : Compression} (undoes : c.Undoes) (level : CompressionLevel) (entries : List Entry) :
    ∃ stored, c.encode level entries = .ok stored ∧ c.read stored = .ok entries := by
  obtain ⟨stored, packed, unpacked⟩ := undoes level.number (Text.utf8 (Batch.text entries))
  exact ⟨stored, packed, read_of_unpack unpacked⟩

/-! ## Frames -/

theorem frames_encode (level : CompressionLevel) (entries : List Entry) :
    frames.encode level entries = .ok (Batch.encode level entries) := rfl

theorem frames_undoes : frames.Undoes := by
  intro level content
  refine ⟨Frame.encode content, rfl, ?_⟩
  show Batch.decompress (Frame.encode content) = .ok content
  unfold Batch.decompress
  rw [Frame.decode?_encode]

/-- Reads a batch back. A reader has a level too, for what it writes itself. -/
def decode (c : Compression) (_level : CompressionLevel) (stored : Bytes) :
    Except RecorderError (List Entry) := c.read stored

theorem frames_decode (level : CompressionLevel) (stored : Bytes) :
    frames.decode level stored = Batch.decode stored := rfl

end Compression

/-! ## Faithfulness -/

namespace Batch

/-- **Batches are stored faithfully.** Whatever the entries and the levels of writer and reader: a batch is
    stored and read back, and two batches that are stored alike are the same. -/
theorem stored_faithfully (c : Compression) (undoes : c.Undoes) :
    (∀ writing reading entries, ∃ stored,
      c.encode writing entries = .ok stored ∧ c.decode reading stored = .ok entries) ∧
    ∀ writing writing' entries entries',
      c.encode writing entries = c.encode writing' entries' → entries = entries' := by
  have readBack : ∀ writing reading entries, ∃ stored,
      c.encode writing entries = .ok stored ∧ c.decode reading stored = .ok entries := by
    intro writing reading entries
    exact Compression.exists_encode undoes writing entries
  refine ⟨readBack, ?_⟩
  intro writing writing' entries entries' alike
  -- One reader reads both.
  obtain ⟨stored, made, back⟩ := readBack writing .fast entries
  obtain ⟨stored', made', back'⟩ := readBack writing' .fast entries'
  have same : stored = stored' := by
    rw [made, made'] at alike
    exact Except.ok.inj alike
  rw [same, back'] at back
  exact (Except.ok.inj back).symm

/-- Entries at the limits of their fields: the largest and smallest numbers, payloads of all kinds, and a
    thread name that is escaped in the record. -/
def extremeEntries : List Entry :=
  [.event ⟨2147483647, 9223372036854775807, none, 18446744073709551615, "\"\\\n\u0001é", false⟩,
    .event ⟨-2147483648, -9223372036854775808, some [], 0, "", true⟩,
    .event ⟨0, 0, some [0, 255], 1, "main", false⟩,
    .weave (-1) [2147483647, -2147483648],
    .weave 0 []]

theorem stored_faithfully_extremes :
    Compression.frames.Undoes ∧ decode (encode .best extremeEntries) = .ok extremeEntries := by
  refine ⟨Compression.frames_undoes, ?_⟩
  obtain ⟨stored, made, back⟩ :=
    (stored_faithfully Compression.frames Compression.frames_undoes).1 .best .fast extremeEntries
  rw [Compression.frames_encode] at made
  rw [Compression.frames_decode, ← Except.ok.inj made] at back
  exact back

end Batch
end ProbeRecorder
