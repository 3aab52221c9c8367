import ProbeRecorder.Text.Utf8

/-!
# `ProbeRecorder.Batch.Frame` — Zstandard frames

A frame starts with a magic number and the length of its content, which follows in blocks of at most
128 KiB. Frames are written with stored blocks, so that the content can be read back without a model of
entropy coding; a reader of the format accepts them. Only such frames are read: one with a compressed block, a
checksum or another descriptor is refused here.

## Contents
- **Numbers.** `littleEndian`, `ofLittleEndian`.
- **Writing.** `Frame.encode`.
- **Reading.** `Frame.decode?`, which accepts any number of frames but none.
-/

namespace ProbeRecorder.Frame

/-! ## Numbers -/

/-- The lowest `count` bytes of a number, least significant first. -/
def littleEndian : (count : Nat) → Nat → Bytes
  | 0, _ => []
  | count + 1, n => n.toUInt8 :: littleEndian count (n / 256)

/-- The number that bytes spell, least significant first. -/
def ofLittleEndian : Bytes → Nat
  | [] => 0
  | b :: rest => b.toNat + 256 * ofLittleEndian rest

/-! ## Writing -/

/-- The magic number. -/
def magic : Bytes := [0x28, 0xb5, 0x2f, 0xfd]

/-- The frame is one segment, and its content length takes eight bytes. -/
def descriptor : UInt8 := 0xe0

/-- Largest block. -/
def maxBlock : Nat := 131072

/-- A block of stored bytes: its length, its kind and whether it is the last. -/
def storedBlock (last : Bool) (content : Bytes) : Bytes :=
  littleEndian 3 (8 * content.length + (if last then 1 else 0)) ++ content

/-- The blocks of a content. -/
def blocks (content : Bytes) : Bytes :=
  if _h : content.length ≤ maxBlock then storedBlock true content
  else storedBlock false (content.take maxBlock) ++ blocks (content.drop maxBlock)
  termination_by content.length
  decreasing_by simp only [List.length_drop, maxBlock] at *; omega

/-- **Writes a frame.** -/
def encode (content : Bytes) : Bytes :=
  magic ++ descriptor :: (littleEndian 8 content.length ++ blocks content)

/-! ## Reading -/

/-- The content of one block: bytes as stored, or one byte repeated. -/
def blockContent? (kind size : Nat) (rest : Bytes) : Option (Bytes × Bytes) :=
  if kind = 0 then
    if rest.length < size then none else some (rest.take size, rest.drop size)
  else if kind = 1 then
    match rest with
    | b :: rest => some (List.replicate size b, rest)
    | [] => none
  else none

theorem blockContent?_length {kind size : Nat} {rest : Bytes} {out : Bytes × Bytes}
    (h : blockContent? kind size rest = some out) : out.2.length ≤ rest.length := by
  unfold blockContent? at h
  split at h
  · split at h
    · cases h
    · cases h; simp
  · split at h
    · cases rest with
      | nil => cases h
      | cons b rest => cases h; simp
    · cases h

/-- The content of the blocks up to the last one, and what follows them. -/
def decodeBlocks? : Bytes → Option (Bytes × Bytes)
  | b₀ :: b₁ :: b₂ :: rest =>
    let header := ofLittleEndian [b₀, b₁, b₂]
    let size := header / 8
    if maxBlock < size then none
    else
      match h : blockContent? (header / 2 % 4) size rest with
      | none => none
      | some (content, after) =>
        if header % 2 = 1 then some (content, after)
        else
          have : after.length < rest.length + 1 + 1 + 1 := by
            have := blockContent?_length h
            simp only at this
            omega
          (decodeBlocks? after).map fun (more, last) => (content ++ more, last)
  | _ => none
  termination_by bytes => bytes.length

/-- The content of the first frame, and what follows it. The length written in the frame must be that of
    the content. -/
def decodeOne? (bytes : Bytes) : Option (Bytes × Bytes) := do
  if bytes.take 4 = magic && bytes[4]? = some descriptor && 13 ≤ bytes.length then
    let (content, after) ← decodeBlocks? (bytes.drop 13)
    if littleEndian 8 content.length = (bytes.drop 5).take 8 then return (content, after) else none
  else none

/-- The content of at most `limit` frames. -/
def decodeFrames? : (limit : Nat) → Bytes → Option Bytes
  | _, [] => some []
  | 0, _ :: _ => none
  | limit + 1, bytes => do
    let (content, after) ← decodeOne? bytes
    return content ++ (← decodeFrames? limit after)

/-- **Reads frames** up to the end of the input, at least one. A frame has at least one byte, so there are
    no more of them than bytes. -/
def decode? (bytes : Bytes) : Option Bytes :=
  if bytes.isEmpty then none else decodeFrames? bytes.length bytes

end ProbeRecorder.Frame
