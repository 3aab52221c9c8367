import ProbeRecorder.Identity.Heap

/-!
# `ProbeRecorder.Identity.LatestCache` — the latest instance of each type

A bounded cache from simplified type names to the value seen last under that name. Adding and finding a
name make it the most recently used one; when the cache is full, the least recently used name goes.

## Contents
- **Cache.** `LatestCache` with `put`, `find?`, `remove`.
-/

namespace ProbeRecorder

/-- **Cache**, most recently used name first. -/
structure LatestCache where
  capacity : Nat
  entries : List (List Char × Allocation)
  deriving DecidableEq, Repr

namespace LatestCache

/-- An empty cache; it holds at least one name. -/
def new (capacity : Nat) : LatestCache := ⟨max capacity 1, []⟩

/-- The entries of other names. -/
def others (c : LatestCache) (name : List Char) : List (List Char × Allocation) :=
  c.entries.filter fun e => e.1 ≠ name

/-- **Remembers** a value under its name. -/
def put (c : LatestCache) (name : List Char) (a : Allocation) : LatestCache :=
  { c with entries := ((name, a) :: c.others name).take c.capacity }

/-- The value under a name. -/
def find? (c : LatestCache) (name : List Char) : Option Allocation :=
  (c.entries.find? fun e => e.1 = name).map (·.2)

def remove (c : LatestCache) (name : List Char) : LatestCache :=
  { c with entries := c.others name }

end LatestCache
end ProbeRecorder
