import ProbeRecorder.Correlation
import ProbeRecorder.Event

/-!
# `ProbeRecorder.Proofs.Correlation` — correlation ids

## Contents
- **Bytes.** A value is read back from its bytes (`ofBigEndian?_bigEndian`), and eight bytes are those of one
  value (`ofBigEndian?_eq_some_iff`); an anchor carries its correlation id (`correlation?_anchor`).
- **Anchors.** What a table says after a registration (`AnchorTable.anchor?_register`).
- **Clock.** The next id is later than the last one, as long as there are any (`next_toInt`).
-/

namespace ProbeRecorder

/-! ## Bytes -/

theorem bigEndian_length (n : Int64) : (bigEndian n).length = 8 := rfl

/-- One more byte, behind those that are more significant. -/
theorem next_byte (n : UInt64) (place : Nat) :
    256 * (n.toNat / Nat.pow 256 (place + 1)) + (byteAt n place).toNat =
      n.toNat / Nat.pow 256 place := by
  have hdiv : n.toNat / Nat.pow 256 (place + 1) = n.toNat / Nat.pow 256 place / 256 :=
    (Nat.div_div_eq_div_mul _ _ _).symm
  rw [hdiv, byteAt, Nat.toUInt8_eq, UInt8.toNat_ofNat']
  exact Nat.div_add_mod _ 256

/-- **The eight bytes give the value back.** -/
theorem ofBigEndian?_bigEndian (n : Int64) : ofBigEndian? (bigEndian n) = some n := by
  have digits : (bigEndian n).foldl (fun (n : Nat) (b : UInt8) => 256 * n + b.toNat) 0
      = n.toUInt64.toNat := by
    -- Nothing is left above the first byte.
    have first := next_byte n.toUInt64 7
    rw [Nat.div_eq_of_lt n.toUInt64.toNat_lt] at first
    simp only [bigEndian, List.map_cons, List.map_nil, List.foldl_cons, List.foldl_nil]
    rw [first, next_byte _ 6, next_byte _ 5, next_byte _ 4, next_byte _ 3, next_byte _ 2, next_byte _ 1,
      next_byte _ 0]
    exact Nat.div_one _
  unfold ofBigEndian?
  rw [if_pos (bigEndian_length n), digits]
  exact congrArg some (by rw [Nat.toUInt64_eq, UInt64.ofNat_toNat, Int64.toInt64_toUInt64])

/-- The number that some bytes make behind another number. -/
def followedBy (n : Nat) (bytes : Bytes) : Nat := bytes.foldl (fun n b => 256 * n + b.toNat) n

/-- **A number is written in one way** with so many bytes. -/
theorem followedBy_inj {xs : Bytes} : ∀ {ys : Bytes} {m n : Nat}, xs.length = ys.length →
    followedBy m xs = followedBy n ys → m = n ∧ xs = ys := by
  induction xs with
  | nil =>
      intro ys m n hlength h
      rw [List.length_eq_zero_iff.mp hlength.symm] at h ⊢
      exact ⟨h, rfl⟩
  | cons a xs ih =>
      intro ys m n hlength h
      cases ys with
      | nil => cases hlength
      | cons b ys =>
          obtain ⟨first, rest⟩ := ih (m := 256 * m + a.toNat) (n := 256 * n + b.toNat)
            (Nat.succ.inj hlength) h
          have ha := a.toNat_lt
          have hb := b.toNat_lt
          have hbyte : a = b := UInt8.toNat_inj.mp (by omega)
          exact ⟨by omega, by rw [hbyte, rest]⟩

theorem followedBy_lt (xs : Bytes) : ∀ n, followedBy n xs < (n + 1) * Nat.pow 256 xs.length := by
  induction xs with
  | nil => simp [followedBy]
  | cons b rest ih =>
      intro n
      have hb := b.toNat_lt
      calc followedBy (256 * n + b.toNat) rest
        _ < (256 * n + b.toNat + 1) * Nat.pow 256 rest.length := ih _
        _ ≤ (n + 1) * 256 * Nat.pow 256 rest.length := Nat.mul_le_mul_right _ (by omega)
        _ = (n + 1) * Nat.pow 256 (rest.length + 1) := by
            rw [Nat.mul_assoc, Nat.mul_comm 256]
            rfl

/-- **Eight bytes are those of one value**, most significant first. -/
theorem ofBigEndian?_eq_some_iff {bytes : Bytes} {n : Int64} :
    ofBigEndian? bytes = some n ↔ bytes = bigEndian n := by
  refine ⟨fun read => ?_, fun written => written ▸ ofBigEndian?_bigEndian n⟩
  have written := ofBigEndian?_bigEndian n
  have fits : ∀ xs : Bytes, xs.length = 8 →
      (followedBy 0 xs).toUInt64.toInt64.toUInt64.toNat = followedBy 0 xs := by
    intro xs eight
    have bound := followedBy_lt xs 0
    rw [eight] at bound
    rw [UInt64.toUInt64_toInt64, Nat.toUInt64_eq, UInt64.toNat_ofNat']
    exact Nat.mod_eq_of_lt bound
  unfold ofBigEndian? at read written
  split at read
  · rename_i eight
    rw [if_pos (bigEndian_length n)] at written
    have same : followedBy 0 bytes = followedBy 0 (bigEndian n) := by
      rw [← fits bytes eight, ← fits _ (bigEndian_length n)]
      exact congrArg (fun m : Int64 => m.toUInt64.toNat) (Option.some.inj (read.trans written.symm))
    exact (followedBy_inj (eight.trans (bigEndian_length n).symm) same).2
  · cases read

namespace Event

theorem correlation?_anchor (stamp : Stamp) (probe : ProbeId) (object : ObjectId) (correlation : Int64) :
    (anchor stamp probe object correlation).correlation? = some correlation :=
  ofBigEndian?_bigEndian correlation

/-- **The correlation id of an anchor** is the value whose bytes are the payload. -/
theorem correlation?_eq_some_iff {e : Event} {n : Int64} :
    e.correlation? = some n ↔ e.isAnchor = true ∧ e.payload = some (bigEndian n) := by
  unfold correlation?
  cases e.isAnchor with
  | false => simp
  | true => simp [ofBigEndian?_eq_some_iff, Option.bind_eq_some_iff]

end Event

/-! ## Anchors -/

namespace AnchorTable

/-- Binding several probes to one anchor. -/
theorem get?_foldl_put (anchor probe : ProbeId) (probes : List ProbeId) (m : FiniteMap ProbeId ProbeId) :
    (probes.foldl (fun m p => m.put p anchor) m).get? probe =
      if probe ∈ probes then some anchor else m.get? probe := by
  induction probes generalizing m with
  | nil => rfl
  | cons p rest ih =>
      rw [List.foldl_cons, ih, FiniteMap.get?_put]
      by_cases hrest : probe ∈ rest
      · simp [hrest]
      · simp [hrest]

/-- **Reading after a registration.** -/
theorem anchor?_register (t : AnchorTable) (anchor probe : ProbeId) (probes : List ProbeId) :
    (t.register anchor probes).anchor? probe =
      if probe = anchor ∨ probe ∈ probes then some anchor else t.anchor? probe := by
  unfold register anchor?
  rw [FiniteMap.get?_put, get?_foldl_put]
  by_cases h : probe = anchor
  · simp [h]
  · simp [h]

end AnchorTable

/-! ## Clock -/

namespace CorrelationClock

/-- **The next id** is the time, or the id after the last one if that is later. -/
theorem next_toInt (c : CorrelationClock) (now : Int64) (h : c.last.toInt < Int64.maxValue.toInt) :
    (c.next now).toInt = max (c.last.toInt + 1) now.toInt := by
  have hone : (1 : Int64).toInt = 1 := rfl
  have hsucc : (c.last + 1).toInt = c.last.toInt + 1 := by
    have hmin := c.last.le_toInt
    rw [Int64.toInt_maxValue] at h
    rw [Int64.toInt_add, hone]
    exact Int.bmod_eq_of_le (by omega) (by omega)
  unfold next
  by_cases hlate : now < c.last + 1
  · rw [if_pos hlate, hsucc]
    rw [Int64.lt_iff_toInt_lt, hsucc] at hlate
    omega
  · rw [if_neg hlate]
    rw [Int64.lt_iff_toInt_lt, hsucc] at hlate
    omega

end CorrelationClock
end ProbeRecorder
