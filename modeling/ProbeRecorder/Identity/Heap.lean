import ProbeRecorder.FiniteMap

/-!
# `ProbeRecorder.Identity.Heap` — values in memory

The recorder does not own the values it observes. It knows where a value lives, and it can ask whether
somebody still holds it.

## Contents
- **Allocations.** `Allocation`: an address, and which value it is that lives or lived there.
- **Heap.** `Heap`, the holders of each allocation; `allocate`, `retain`, `release`, `isLive`.
-/

namespace ProbeRecorder

/-- **An allocated value**: its address, and a number that tells it from earlier and later values at the
    same address. -/
structure Allocation where
  address : Nat
  serial : Nat
  deriving DecidableEq, Repr

/-- **Heap**: how often each living value is held, and the number for the next one. -/
structure Heap where
  holders : FiniteMap Allocation Nat
  nextSerial : Nat

namespace Heap

def empty : Heap := ⟨.empty, 0⟩

/-- Somebody holds the value. -/
def isLive (h : Heap) (a : Allocation) : Bool := h.holders.contains a

/-- A new value at an address, held once. -/
def allocate (h : Heap) (address : Nat) : Allocation × Heap :=
  let a : Allocation := ⟨address, h.nextSerial⟩
  (a, ⟨h.holders.put a 1, h.nextSerial + 1⟩)

/-- One more holder of a living value. -/
def retain (h : Heap) (a : Allocation) : Heap :=
  match h.holders.get? a with
  | some n => { h with holders := h.holders.put a (n + 1) }
  | none => h

/-- One holder fewer; the value dies with the last one. -/
def release (h : Heap) (a : Allocation) : Heap :=
  match h.holders.get? a with
  | some (n + 2) => { h with holders := h.holders.put a (n + 1) }
  | some _ => { h with holders := h.holders.erase a }
  | none => h

end Heap
end ProbeRecorder
