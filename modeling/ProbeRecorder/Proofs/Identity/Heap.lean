import ProbeRecorder.Identity.Heap

/-!
# `ProbeRecorder.Proofs.Identity.Heap` — how memory changes under a running program

A program allocates values, holds them more than once and lets them go. An address may be used again once
nothing lives there any more; the value that lives there then is another one.

## Contents
- **Operations.** What lives after each of them (`isLive_allocate`, `isLive_retain`, `isLive_of_release`).
- **Evolution.** `Heap.Evolves`, any sequence of operations.
- **Values.** `Heap.Sound`, kept by evolution (`Heap.Evolves.sound`); dead values stay dead
  (`Heap.Evolves.isLive`).
-/

namespace ProbeRecorder.Heap

variable {h h' : Heap} {a b : Allocation}

/-! ## Operations -/

theorem isLive_allocate (h : Heap) (address : Nat) (b : Allocation) :
    (h.allocate address).2.isLive b = true ↔ b = ⟨address, h.nextSerial⟩ ∨ h.isLive b = true := by
  unfold isLive allocate FiniteMap.contains
  rw [FiniteMap.get?_put]
  split <;> simp_all

theorem isLive_retain (h : Heap) (a b : Allocation) : (h.retain a).isLive b = h.isLive b := by
  unfold isLive retain FiniteMap.contains
  split
  · rename_i n held
    rw [FiniteMap.get?_put]
    split
    · simp_all
    · rfl
  · rfl

theorem isLive_of_release (h : Heap) (live : (h.release a).isLive b = true) : h.isLive b = true := by
  unfold release at live
  unfold isLive FiniteMap.contains at live ⊢
  split at live
  · rw [FiniteMap.get?_put] at live
    split at live
    · simp_all
    · exact live
  · rw [FiniteMap.get?_erase] at live
    split at live
    · cases live
    · exact live
  · exact live

theorem nextSerial_retain (h : Heap) (a : Allocation) : (h.retain a).nextSerial = h.nextSerial := by
  unfold retain
  split <;> rfl

theorem nextSerial_release (h : Heap) (a : Allocation) : (h.release a).nextSerial = h.nextSerial := by
  unfold release
  split <;> rfl

/-! ## Evolution -/

/-- **Evolution**: a program allocates where nothing lives, and gains and loses holders of values. -/
inductive Evolves (h : Heap) : Heap → Prop where
  | refl : Evolves h h
  | allocate {h' : Heap} (before : Evolves h h') (address : Nat)
      (free : ∀ b, h'.isLive b = true → b.address ≠ address) : Evolves h (h'.allocate address).2
  | retain {h' : Heap} (before : Evolves h h') (a : Allocation) : Evolves h (h'.retain a)
  | release {h' : Heap} (before : Evolves h h') (a : Allocation) : Evolves h (h'.release a)

/-! ## Values -/

/-- **A sound heap**: living values have numbers given out already, and addresses of their own. -/
structure Sound (h : Heap) : Prop where
  older : ∀ a, h.isLive a = true → a.serial < h.nextSerial
  apart : ∀ a b, h.isLive a = true → h.isLive b = true → a.address = b.address → a = b

theorem empty_sound : Heap.empty.Sound := ⟨fun _ live => (nomatch live), fun _ _ live => (nomatch live)⟩

/-- **Evolution keeps a heap sound.** -/
theorem Evolves.sound (evolves : h.Evolves h') (sound : h.Sound) : h'.Sound := by
  induction evolves with
  | refl => exact sound
  | @allocate h' _ address free ih =>
      constructor
      · intro a live
        show a.serial < h'.nextSerial + 1
        rcases (h'.isLive_allocate address a).mp live with rfl | live
        · exact Nat.lt_succ_self _
        · exact Nat.lt_succ_of_lt (ih.older a live)
      · intro a b ha hb same
        rcases (h'.isLive_allocate address a).mp ha with rfl | ha <;>
          rcases (h'.isLive_allocate address b).mp hb with rfl | hb
        · rfl
        · exact absurd same.symm (free b hb)
        · exact absurd same (free a ha)
        · exact ih.apart a b ha hb same
  | @retain h' _ c ih =>
      constructor
      · intro a live
        rw [nextSerial_retain]
        rw [isLive_retain] at live
        exact ih.older a live
      · intro a b ha hb
        rw [isLive_retain] at ha hb
        exact ih.apart a b ha hb
  | @release h' _ c ih =>
      constructor
      · intro a live
        rw [nextSerial_release]
        exact ih.older a (isLive_of_release h' live)
      · intro a b ha hb
        exact ih.apart a b (isLive_of_release h' ha) (isLive_of_release h' hb)

theorem Evolves.nextSerial_le (evolves : h.Evolves h') : h.nextSerial ≤ h'.nextSerial := by
  induction evolves with
  | refl => exact Nat.le_refl _
  | allocate _ _ _ ih => exact Nat.le_succ_of_le ih
  | retain _ a ih =>
      rw [nextSerial_retain]
      exact ih
  | release _ a ih =>
      rw [nextSerial_release]
      exact ih

/-- **A value that lives was alive all the time** since its number was given out. -/
theorem Evolves.isLive (evolves : h.Evolves h') (old : a.serial < h.nextSerial)
    (live : h'.isLive a = true) : h.isLive a = true := by
  induction evolves with
  | refl => exact live
  | @allocate h' before address _ ih =>
      rcases (h'.isLive_allocate address a).mp live with rfl | live
      · -- The number of the new value was not given out before.
        exact absurd before.nextSerial_le (Nat.not_le_of_lt old)
      · exact ih live
  | @retain h' _ c ih =>
      rw [isLive_retain] at live
      exact ih live
  | @release h' _ c ih => exact ih (isLive_of_release h' live)

end ProbeRecorder.Heap
