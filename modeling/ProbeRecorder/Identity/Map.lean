import ProbeRecorder.Identity.LatestCache
import ProbeRecorder.Probe
import ProbeRecorder.TypeName

/-!
# `ProbeRecorder.Identity.Map` — identities of observed values

A value keeps its identity as long as it lives. The map does not keep values alive: slots of dead values
are purged when there are more slots than a threshold allows.

## Contents
- **Map.** `IdentityMap`, slots by address.
- **Identities.** `identify` for values, `issue` for identities without a value.
- **Purging.** `purge`, `purged`, `purgeIfDue`.
- **Latest instances.** `latestInstance`.
-/

namespace ProbeRecorder

/-- The identity of the value that lived at an address when it was observed. -/
structure IdentitySlot where
  id : ObjectId
  value : Allocation
  deriving DecidableEq, Repr

/-- **Identity map.** -/
structure IdentityMap where
  slots : FiniteMap Nat IdentitySlot
  nextId : ObjectId
  /-- More slots than this make a purge due. -/
  threshold : Nat
  capacity : Nat
  latest : LatestCache

namespace IdentityMap

/-- An empty map for the given numbers of slots and type names, each at least one. -/
def new (capacity typeCapacity : Nat) : IdentityMap :=
  ⟨.empty, nullObject + 1, max capacity 1, max capacity 1, .new typeCapacity⟩

/-- The capacities used when nobody asks for others. -/
def standard : IdentityMap := new 65536 1024

/-- The number of slots, of living and of dead values. -/
def size (m : IdentityMap) : Nat := m.slots.size

/-- **Purges** the slots of dead values. The next purge is due when the slots left have doubled, and not
    below the capacity. -/
def purge (m : IdentityMap) (heap : Heap) : IdentityMap :=
  let slots := m.slots.retain fun slot => heap.isLive slot.value
  { m with slots := slots, threshold := max m.capacity (2 * slots.size) }

/-- How many slots a purge removes. -/
def purged (m : IdentityMap) (heap : Heap) : Nat := m.size - (m.purge heap).size

/-- Purges if there are more slots than allowed. -/
def purgeIfDue (m : IdentityMap) (heap : Heap) : IdentityMap :=
  if m.threshold < m.size then m.purge heap else m

/-- **A fresh identity** that belongs to no value. -/
def issue (m : IdentityMap) : ObjectId × IdentityMap :=
  (m.nextId, { m with nextId := m.nextId + 1 })

/-- The identity in the slot of a value, if the value seen there still lives. -/
def known? (m : IdentityMap) (heap : Heap) (a : Allocation) : Option ObjectId :=
  match m.slots.get? a.address with
  | some slot => if heap.isLive slot.value then some slot.id else none
  | none => none

/-- The value's slot, made with a fresh identity if there is none. -/
def enter (m : IdentityMap) (heap : Heap) (a : Allocation) : ObjectId × IdentityMap :=
  match m.known? heap a with
  | some id => (id, m)
  | none => (m.nextId, { m with slots := m.slots.put a.address ⟨m.nextId, a⟩, nextId := m.nextId + 1 })

/-- Remembers a value as the latest instance of its type. -/
def remember (m : IdentityMap) (a : Allocation) (typeName : String) : IdentityMap :=
  match TypeName.simplify? typeName.toList with
  | some name => { m with latest := m.latest.put name a }
  | none => m

/-- **The identity of a living value.** -/
def identify (m : IdentityMap) (heap : Heap) (a : Allocation) (typeName : String) :
    ObjectId × IdentityMap :=
  let (id, m) := m.enter heap a
  (id, (m.purgeIfDue heap).remember a typeName)

/-- **The latest instance of a type**, if it still lives. A name whose instance is dead is forgotten. -/
def latestInstance (m : IdentityMap) (heap : Heap) (typeName : String) :
    Option Allocation × IdentityMap :=
  match TypeName.simplify? typeName.toList with
  | none => (none, m)
  | some name =>
    match m.latest.find? name with
    | none => (none, m)
    | some a =>
      if heap.isLive a then (some a, { m with latest := m.latest.put name a })
      else (none, { m with latest := m.latest.remove name })

end IdentityMap
end ProbeRecorder
