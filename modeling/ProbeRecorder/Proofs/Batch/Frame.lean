import ProbeRecorder.Batch.Frame

/-!
# `ProbeRecorder.Proofs.Batch.Frame` — frames read back

## Contents
- **Numbers.** `ofLittleEndian_littleEndian`.
- **Blocks.** `decodeBlocks?_blocks`, by the recursion that cuts the content.
- **Frames.** `decode?_encode`.
-/

namespace ProbeRecorder.Frame

/-! ## Numbers -/

theorem littleEndian_length (count : Nat) : ∀ n : Nat, (littleEndian count n).length = count := by
  induction count with
  | zero => exact fun n => rfl
  | succ count ih => exact fun n => congrArg (· + 1) (ih (n / 256))

/-- **A number that fits is read back.** -/
theorem ofLittleEndian_littleEndian (count : Nat) :
    ∀ n : Nat, n < Nat.pow 256 count → ofLittleEndian (littleEndian count n) = n := by
  induction count with
  | zero =>
      intro n h
      have hn : n = 0 := Nat.lt_one_iff.1 h
      rw [hn]
      rfl
  | succ count ih =>
      intro n h
      have hprod : n < Nat.pow 256 count * 256 := h
      rw [Nat.mul_comm] at hprod
      have hrest : n / 256 < Nat.pow 256 count := Nat.div_lt_of_lt_mul hprod
      show (Nat.toUInt8 n).toNat + 256 * ofLittleEndian (littleEndian count (n / 256)) = n
      rw [ih _ hrest, Nat.toUInt8_eq, UInt8.toNat_ofNat']
      omega

/-! ## Blocks -/

/-- The header of a stored block. -/
theorem header_bounds {length last : Nat} (h : length ≤ maxBlock) (hlast : last ≤ 1) :
    8 * length + last < Nat.pow 256 3 := by
  unfold maxBlock at h
  show 8 * length + last < 16777216
  omega

/-- **One stored block is read back**, with the blocks after it unless it is the last. -/
theorem decodeBlocks?_storedBlock (last : Bool) {content : Bytes} (h : content.length ≤ maxBlock)
    (rest : Bytes) :
    decodeBlocks? (storedBlock last content ++ rest) =
      if last then some (content, rest)
      else (decodeBlocks? rest).map fun next => (content ++ next.1, next.2) := by
  have hlast : (if last then 1 else 0 : Nat) ≤ 1 := by split <;> decide
  have hread := ofLittleEndian_littleEndian 3 _ (header_bounds h hlast)
  obtain ⟨b₀, b₁, b₂, hbytes⟩ : ∃ b₀ b₁ b₂,
      littleEndian 3 (8 * content.length + (if last then 1 else 0)) = [b₀, b₁, b₂] := ⟨_, _, _, rfl⟩
  -- The header holds three numbers: the size above three bits, the kind, and the last flag.
  have hsize : (8 * content.length + (if last then 1 else 0)) / 8 = content.length := by omega
  have hkind : (8 * content.length + (if last then 1 else 0)) / 2 % 4 = 0 := by omega
  have hcontent : blockContent? 0 content.length (content ++ rest) = some (content, rest) := by
    unfold blockContent?
    rw [if_pos rfl, if_neg (by rw [List.length_append]; omega), List.take_left, List.drop_left]
  unfold storedBlock
  rw [hbytes] at hread ⊢
  rw [List.append_assoc, List.cons_append, List.cons_append, List.cons_append, List.nil_append, decodeBlocks?]
  simp only [hread, hsize]
  rw [if_neg (Nat.not_lt.mpr h)]
  split
  · rename_i hnone
    rw [hread, hsize, hkind, hcontent] at hnone
    cases hnone
  · rename_i got after hsome
    rw [hread, hsize, hkind, hcontent] at hsome
    obtain ⟨rfl, rfl⟩ := Prod.mk.inj (Option.some.inj hsome)
    cases last with
    | true => exact if_pos (show (8 * content.length + 1) % 2 = 1 by omega)
    | false => exact if_neg (show ¬ (8 * content.length + 0) % 2 = 1 by omega)

/-- **The blocks of a content are read back.** -/
theorem decodeBlocks?_blocks (content rest : Bytes) :
    decodeBlocks? (blocks content ++ rest) = some (content, rest) := by
  induction content using blocks.induct with
  | case1 content h =>
      rw [blocks, dif_pos h, decodeBlocks?_storedBlock true h]
      rfl
  | case2 content h ih =>
      have htake : (content.take maxBlock).length ≤ maxBlock := List.length_take_le _ _
      rw [blocks, dif_neg h, List.append_assoc, decodeBlocks?_storedBlock false htake, ih]
      exact congrArg (fun c => some (c, rest)) (List.take_append_drop maxBlock content)

/-! ## Frames -/

theorem decodeOne?_encode (content : Bytes) : decodeOne? (encode content) = some (content, []) := by
  have hlength := littleEndian_length 8 content.length
  have hmagic : (encode content).take 4 = magic := rfl
  have hdescriptor : (encode content)[4]? = some descriptor := rfl
  have hbody : (encode content).drop 5 = littleEndian 8 content.length ++ blocks content := rfl
  have hdrop : (encode content).drop 13 = blocks content := by
    have : (encode content).drop 13 = ((encode content).drop 5).drop 8 := by rw [List.drop_drop]
    rw [this, hbody, List.drop_left' hlength]
  have htake : ((encode content).drop 5).take 8 = littleEndian 8 content.length := by
    rw [hbody, List.take_left' hlength]
  have hlong : 13 ≤ (encode content).length := by
    unfold encode
    rw [List.length_append, List.length_cons, List.length_append, hlength]
    show 13 ≤ 4 + (8 + (blocks content).length + 1)
    omega
  -- Magic, descriptor and size are thirteen bytes; the blocks follow.
  have hblocks := decodeBlocks?_blocks content []
  rw [List.append_nil] at hblocks
  unfold decodeOne?
  rw [hmagic, hdescriptor, hdrop, htake, hblocks]
  simp [hlong]

/-- **A frame is read back.** -/
theorem decode?_encode (content : Bytes) : decode? (encode content) = some content := by
  obtain ⟨limit, hlimit⟩ : ∃ limit, (encode content).length = limit + 1 := ⟨_, rfl⟩
  unfold decode?
  rw [hlimit]
  show (decodeOne? (encode content)).bind _ = some content
  rw [decodeOne?_encode]
  show (decodeFrames? limit []).bind (fun more => some (content ++ more)) = some content
  have hend : decodeFrames? limit [] = some [] := by cases limit <;> rfl
  rw [hend]
  exact congrArg some (List.append_nil content)

end ProbeRecorder.Frame
